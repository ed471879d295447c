import MoeUV.Handle.AsyncHandle
import MoeUV.Foundation.Mutual
import Mathlib.Logic.Relation

/-!
# Ownership of handle blocks

Wrappers and handle blocks refer to each other: a wrapper through `m_pHandle`, a
block through the tag in `data`. These references are mutual in every state
between two operations. A pooled block without a tag is an orphan, which libuv
must already be closing, since nobody else is left to close it.

Every operation is a sequence of a few moves, each of which touches one block
and at most two wrappers. What the moves keep, all operations keep. The moves
are complete except for one: giving up a block whose close has already finished
loses it, because its close callback, which would free it, has come and gone.
-/

namespace MoeUV

open Foundation.Mutual

/-- What holds of a block by itself. -/
structure Block.Valid (block : Block) : Prop where
  tagged : block.pooled = true → block.data ≠ 0 → ∃ self, block.data = handleToData self
  orphan : block.pooled = true → block.data = 0 → block.phase ≠ .opened
  foreign : block.pooled = false → dataToHandle block.data = none
  callback : block.phase ≠ .opened → block.closeCb = if block.pooled then .onUVClose else .null
  internal : block.internal = true →
    block.pooled = false ∧ block.phase = .opened ∧ block.referenced = false

/-- Wrappers hold blocks from the pool, and both sides know whether the close of
the block has finished. -/
def ownership : Scheme Pointer HandleId Wrapper Block where
  holds wrapper := wrapper.handle
  names block := dataToHandle block.data
  agree wrapper block :=
    block.pooled = true ∧ (wrapper.handleClosed = true ↔ block.phase = .closed)
  leftValid wrapper := wrapper.handle = none → wrapper.handleClosed = true
  rightValid := Block.Valid

/-- All references between wrappers and blocks are mutual. -/
def Owned (heap : Heap) : Prop := Matched ownership heap.wrappers heap.blocks

/-- The flags of a block that libuv's lists and the events depend on. -/
def Heap.progress (heap : Heap) (id : HandleId) : Option (Phase × CloseCallback) :=
  (heap.blocks id).map fun block => (block.phase, block.closeCb)

/-- A block is in libuv's lists as its flags say. -/
structure Standing (heap : Heap) (id : HandleId) : Prop where
  queued : id ∈ heap.queue ↔
    ∃ phase closeCb, heap.progress id = some (phase, closeCb) ∧ phase ≠ .closed
  closing : id ∈ heap.closingHandles ↔ ∃ closeCb, heap.progress id = some (.closing, closeCb)
  fresh : heap.fresh ≤ id → heap.progress id = none

/-- libuv's lists hold exactly the blocks that their flags say. -/
def Linked (heap : Heap) : Prop := ∀ id, Standing heap id

/-- The next block to be allocated does not exist yet. -/
theorem Linked.unborn {heap : Heap} (linked : Linked heap) : heap.blocks heap.fresh = none := by
  simpa [Heap.progress] using (linked heap.fresh).fresh (Nat.le_refl _)

/-- The events of a block up to the present state of its flags. -/
def expectedHistory (id : HandleId) (born : Bool) :
    Option (Phase × CloseCallback) → List Event
  | none => if born then [.freed id, .closeCallback id, .uvClose id] else []
  | some (.opened, _) => []
  | some (.closing, _) => [.uvClose id]
  | some (.closed, .onUVClose) => [.closeCallback id, .uvClose id]
  | some (.closed, .null) => [.uvClose id]

/-- The events of a block are those of one close, as far as it has come. -/
def Recorded (heap : Heap) (id : HandleId) : Prop :=
  heap.history id = expectedHistory id (decide (id < heap.fresh)) (heap.progress id)

/-- The events of every block are in step with its flags. -/
def Logged (heap : Heap) : Prop := ∀ id, Recorded heap id

/-- The elementary changes of a heap. -/
inductive Move (heap : Heap) : Heap → Prop where
  /-- A handle begins to close, with the callback that fits its owner. -/
  | close (id : HandleId) (block : Block) (allocated : heap.blocks id = some block)
      (opened : block.phase = .opened) (external : block.internal = false) :
      Move heap (heap.markClosing id block (if block.pooled then .onUVClose else .null))
  /-- A wrapper gives up a handle that is still closing. -/
  | abandon (self : Pointer) (wrapper : Wrapper) (id : HandleId) (block : Block)
      (content : Option Wrapper) (live : heap.wrappers self = some wrapper)
      (holds : wrapper.handle = some id) (allocated : heap.blocks id = some block)
      (closing : block.phase = .closing) (empty : ∀ w, content = some w → w = ⟨none, true⟩) :
      Move heap ((heap.setBlock id { block with data := 0 }).putWrapper self content)
  /-- A wrapper without a handle is created, destroyed or left as it is. -/
  | rest (self : Pointer) (content : Option Wrapper)
      (idle : ∀ w, heap.wrappers self = some w → w.handle = none)
      (empty : ∀ w, content = some w → w = ⟨none, true⟩) : Move heap (heap.putWrapper self content)
  /-- A handle passes from one wrapper to another. -/
  | transfer (self org : Pointer) (source : Wrapper) (id : HandleId) (block : Block)
      (apart : self ≠ org) (idle : ∀ w, heap.wrappers self = some w → w.handle = none)
      (live : heap.wrappers org = some source) (holds : source.handle = some id)
      (allocated : heap.blocks id = some block) :
      Move heap (((heap.putWrapper self (some source)).putWrapper org (some ⟨none, true⟩)).setBlock
        id { block with data := handleToData self })
  /-- A wrapper is destroyed together with its closed handle. -/
  | discard (self : Pointer) (wrapper : Wrapper) (id : HandleId) (block : Block)
      (live : heap.wrappers self = some wrapper) (holds : wrapper.handle = some id)
      (allocated : heap.blocks id = some block) (closed : block.phase = .closed) :
      Move heap ((heap.putWrapper self none).free id)
  /-- The close of an owned handle finishes. -/
  | finishOwned (self : Pointer) (wrapper : Wrapper) (id : HandleId) (block : Block)
      (live : heap.wrappers self = some wrapper) (holds : wrapper.handle = some id)
      (allocated : heap.blocks id = some block) (closing : block.phase = .closing) :
      Move heap (((heap.markClosed id block).record (.closeCallback id)).putWrapper self
        (some { wrapper with handleClosed := true }))
  /-- The close of an orphan finishes, and its block is freed. -/
  | finishOrphan (id : HandleId) (block : Block) (allocated : heap.blocks id = some block)
      (closing : block.phase = .closing) (pooled : block.pooled = true) (null : block.data = 0) :
      Move heap (((heap.markClosed id block).record (.closeCallback id)).free id)
  /-- The close of another library's handle finishes. -/
  | finishForeign (id : HandleId) (block : Block) (allocated : heap.blocks id = some block)
      (closing : block.phase = .closing) (outside : block.pooled = false) :
      Move heap (heap.markClosed id block)
  /-- A new wrapper is built around a new handle. -/
  | adopt (self : Pointer) (active : Bool) (vacant : heap.wrappers self = none) :
      Move heap ({ heap.setBlock heap.fresh
            ⟨true, false, handleToData self, .opened, .null, active, true⟩ with
          fresh := heap.fresh + 1
          queue := heap.queue ++ [heap.fresh] }.putWrapper self (some ⟨some heap.fresh, false⟩))
  /-- Another library adds a handle of its own. -/
  | share (data : Word) (active : Bool) (untagged : dataToHandle data = none) :
      Move heap (heap.uvForeignInit data active)
  /-- A handle is started, stopped, referenced or unreferenced. -/
  | flag (id : HandleId) (block : Block) (active referenced : Bool)
      (allocated : heap.blocks id = some block)
      (unreferenced : block.internal = true → referenced = false) :
      Move heap (heap.setBlock id { block with active := active, referenced := referenced })

/-- A wrapper gives up a handle whose close has already finished. -/
inductive Leak (heap : Heap) : Heap → Prop where
  | abandon (self : Pointer) (wrapper : Wrapper) (id : HandleId) (block : Block)
      (content : Option Wrapper) (live : heap.wrappers self = some wrapper)
      (holds : wrapper.handle = some id) (allocated : heap.blocks id = some block)
      (closed : block.phase = .closed) (empty : ∀ w, content = some w → w = ⟨none, true⟩) :
      Leak heap ((heap.setBlock id { block with data := 0 }).putWrapper self content)

section Owned

variable {heap next : Heap}

/-- A held block is allocated, pooled and tagged with its holder. -/
theorem Owned.holds (owned : Owned heap) {self : Pointer} {wrapper : Wrapper} {id : HandleId}
    (live : heap.wrappers self = some wrapper) (holds : wrapper.handle = some id) :
    ∃ block, heap.blocks id = some block ∧ block.Valid ∧ block.pooled = true ∧
      block.data = handleToData self ∧ (wrapper.handleClosed = true ↔ block.phase = .closed) := by
  obtain ⟨block, allocated, named, pooled, closed⟩ :=
    (owned.held self wrapper live).answered id holds
  have valid : block.Valid := (owned.named id block allocated).valid
  refine ⟨block, allocated, valid, pooled, ?_, closed⟩
  have present : block.data ≠ 0 := by
    intro null
    simp [ownership, null] at named
  obtain ⟨other, tagged⟩ := valid.tagged pooled present
  simp only [ownership, tagged, dataToHandle_handleToData, Option.some.injEq] at named
  rw [tagged, named]

/-- Tagged data names a live wrapper that holds the block. -/
theorem Owned.named_by (owned : Owned heap) {id : HandleId} {block : Block} {self : Pointer}
    (allocated : heap.blocks id = some block) (tagged : dataToHandle block.data = some self) :
    ∃ wrapper, heap.wrappers self = some wrapper ∧ wrapper.handle = some id :=
  (owned.named id block allocated).answered self tagged

/-- The same from the tag itself. -/
theorem Owned.named_by_tag (owned : Owned heap) {id : HandleId} {block : Block} {self : Pointer}
    (allocated : heap.blocks id = some block) (tagged : block.data = handleToData self) :
    ∃ wrapper, heap.wrappers self = some wrapper ∧ wrapper.handle = some id :=
  owned.named_by allocated (by simp [tagged])

/-- Every block that is allocated is in a state that libuv knows. -/
theorem Owned.valid (owned : Owned heap) {id : HandleId} {block : Block}
    (allocated : heap.blocks id = some block) : block.Valid :=
  (owned.named id block allocated).valid

/-- A wrapper without a handle reports that it is closed. -/
theorem Owned.closed_of_vacant (owned : Owned heap) {self : Pointer} {wrapper : Wrapper}
    (live : heap.wrappers self = some wrapper) (vacant : wrapper.handle = none) :
    wrapper.handleClosed = true :=
  (owned.held self wrapper live).valid vacant

/-- A block may change in everything but its owner and its closed state. Its `data` still names
the same wrapper, and that one still knows whether the handle is closed. -/
theorem Owned.setBlock (owned : Owned heap) {id : HandleId} {block : Block} (changed : Block)
    (allocated : heap.blocks id = some block) (data : changed.data = block.data)
    (pooled : changed.pooled = block.pooled)
    (closed : block.pooled = true → (changed.phase = .closed ↔ block.phase = .closed))
    (valid : changed.Valid)
    (wrappers : next.wrappers = heap.wrappers)
    (blocks : ∀ other, next.blocks other = if other = id then some changed else heap.blocks other) :
    Owned next := by
  refine Matched.frame owned (fun self => dataToHandle block.data = some self) (· = id)
    (fun self _ => congrFun wrappers self) ?_ ?_ ?_ ?_ ?_
  · intro other apart
    rw [blocks, if_neg apart]
  · intro self wrapper held tagged live holds
    obtain ⟨another, live', holds'⟩ := owned.named_by allocated tagged
    obtain rfl : wrapper = another := Option.some.inj (live.symm.trans live')
    exact Option.some.inj (holds.symm.trans holds')
  · intro other another self same present tagged
    rw [same, allocated] at present
    exact (Option.some.inj present) ▸ tagged
  · intro self wrapper tagged live
    rw [wrappers] at live
    have before := owned.held self wrapper live
    refine ⟨before.valid, ?_⟩
    intro held holds
    obtain ⟨another, present, names, agrees⟩ := before.answered held holds
    by_cases same : held = id
    · have unchanged : another = block := by
        rw [same, allocated] at present
        exact (Option.some.inj present).symm
      refine ⟨changed, by rw [blocks, if_pos same], ?_, ?_⟩
      · simpa only [ownership, data, unchanged] using names
      · rw [unchanged] at agrees
        exact ⟨pooled.trans agrees.1, agrees.2.trans (closed agrees.1).symm⟩
    · exact ⟨another, by rw [blocks, if_neg same, present], names, agrees⟩
  · intro other another same present
    rw [blocks, if_pos same] at present
    obtain rfl := Option.some.inj present
    refine ⟨valid, ?_⟩
    intro self names
    have before : dataToHandle block.data = some self := data ▸ names
    rw [wrappers, same]
    exact owned.named_by allocated before

/-- A wrapper holds no block but its own. -/
theorem held_by_live {self : Pointer} {wrapper : Wrapper} {id : HandleId}
    (live : heap.wrappers self = some wrapper) (holds : wrapper.handle = some id)
    (other : Pointer) (another : Wrapper) (held : HandleId) (same : other = self)
    (present : heap.wrappers other = some another) (holds' : another.handle = some held) :
    held = id := by
  rw [same, live] at present
  rw [← Option.some.inj present] at holds'
  exact (Option.some.inj (holds.symm.trans holds')).symm

/-- The block of a wrapper names no other wrapper. -/
theorem Owned.named_by_live (owned : Owned heap) {self : Pointer} {wrapper : Wrapper}
    {id : HandleId} (live : heap.wrappers self = some wrapper) (holds : wrapper.handle = some id)
    (held : HandleId) (another : Block) (other : Pointer) (same : held = id)
    (present : heap.blocks held = some another) (named : ownership.names another = some other) :
    other = self := by
  obtain ⟨found, found', _, _, tagged, _⟩ := owned.holds live holds
  rw [same, found'] at present
  rw [← Option.some.inj present] at named
  simpa [ownership, tagged] using named.symm

/-- A wrapper gives up a block that somebody is closing or has closed. The block loses its
`data` and the wrapper loses its pointer, so neither refers to the other any more. -/
theorem Owned.abandon (owned : Owned heap) {self : Pointer} {wrapper : Wrapper} {id : HandleId}
    {block : Block} (live : heap.wrappers self = some wrapper) (holds : wrapper.handle = some id)
    (allocated : heap.blocks id = some block) (closing : block.phase ≠ .opened)
    (content : Option Wrapper) (empty : ∀ w, content = some w → w = ⟨none, true⟩) :
    Owned ((heap.setBlock id { block with data := 0 }).putWrapper self content) := by
  refine Matched.frame owned (· = self) (· = id) ?_ ?_ ?_ ?_ ?_ ?_
  · intro other apart
    exact (Heap.putWrapper_wrappers _ self other content).trans (if_neg apart)
  · intro other apart
    exact (heap.setBlock_blocks id other _).trans (if_neg apart)
  · exact held_by_live live holds
  · exact owned.named_by_live live holds
  · intro other another same present
    simp only [same, Heap.putWrapper_wrappers, if_true] at present
    rw [empty another present]
    exact ⟨fun _ => rfl, nofun⟩
  · intro held another same present
    simp only [same, Heap.putWrapper_blocks, Heap.setBlock_blocks, if_true,
      Option.some.injEq] at present
    have before := owned.valid allocated
    subst present
    refine ⟨⟨?_, fun _ _ => closing, fun _ => dataToHandle_null, before.callback,
      before.internal⟩, ?_⟩
    · intro _ present
      exact absurd rfl present
    · intro self named
      exact absurd (dataToHandle_null.symm.trans named) (by simp)

/-- A block passes from the wrapper that owns it to one that owns nothing. The pointer and the
`data` change together, and the source is left as a wrapper without a handle. -/
theorem Owned.transfer (owned : Owned heap) {self org : Pointer} {source : Wrapper} {id : HandleId}
    {block : Block} (apart : self ≠ org)
    (idle : ∀ w, heap.wrappers self = some w → w.handle = none)
    (live : heap.wrappers org = some source) (holds : source.handle = some id)
    (allocated : heap.blocks id = some block) :
    Owned (((heap.putWrapper self (some source)).putWrapper org (some ⟨none, true⟩)).setBlock
      id { block with data := handleToData self }) := by
  obtain ⟨found, found', valid, pooled, tagged, closed⟩ := owned.holds live holds
  obtain rfl : found = block := Option.some.inj (found'.symm.trans allocated)
  refine Matched.frame owned (fun p => p = self ∨ p = org) (· = id) ?_ ?_ ?_ ?_ ?_ ?_
  · intro other outside
    have notSelf : other ≠ self := fun same => outside (Or.inl same)
    have notOrg : other ≠ org := fun same => outside (Or.inr same)
    simp [notSelf, notOrg]
  · intro other notId
    simp [notId]
  · intro other another held inside present holds'
    rcases inside with rfl | rfl
    · simp [ownership, idle another present] at holds'
    · rw [live] at present
      rw [← Option.some.inj present] at holds'
      exact (Option.some.inj (holds.symm.trans holds')).symm
  · intro held another other same present named
    rw [same, allocated] at present
    rw [← Option.some.inj present] at named
    simp only [ownership, tagged, dataToHandle_handleToData, Option.some.injEq] at named
    exact Or.inr named.symm
  · intro other another inside present
    rcases inside with rfl | rfl
    · simp only [Heap.setBlock_wrappers, Heap.putWrapper_wrappers, apart, if_false, if_true,
        Option.some.injEq] at present
      subst present
      refine ⟨fun none => by simp [none] at holds, ?_⟩
      intro held holds'
      obtain rfl : id = held := Option.some.inj (holds.symm.trans holds')
      have changed := (Heap.setBlock_blocks
        ((heap.putWrapper other (some source)).putWrapper org (some ⟨none, true⟩)) id id
        { found with data := handleToData other }).trans (if_pos rfl)
      exact ⟨_, changed, dataToHandle_handleToData other, pooled, closed⟩
    · simp only [Heap.setBlock_wrappers, Heap.putWrapper_wrappers, if_true,
        Option.some.injEq] at present
      subst present
      exact ⟨fun _ => rfl, nofun⟩
  · intro held another same present
    simp only [same, Heap.setBlock_blocks, if_true, Option.some.injEq] at present
    subst present
    refine ⟨⟨fun _ _ => ⟨self, rfl⟩, fun _ null => absurd null (handleToData_ne_null self), ?_,
      valid.callback, valid.internal⟩, ?_⟩
    · intro outside
      exact absurd outside (by simp [pooled])
    · intro other named
      simp only [ownership, dataToHandle_handleToData, Option.some.injEq] at named
      exact ⟨source, by simp [← named, apart], by rw [same]; exact holds⟩

/-- A wrapper and the block it owns disappear together. -/
theorem Owned.discard (owned : Owned heap) {self : Pointer} {wrapper : Wrapper} {id : HandleId}
    (live : heap.wrappers self = some wrapper) (holds : wrapper.handle = some id) :
    Owned ((heap.putWrapper self none).free id) := by
  refine Matched.frame owned (· = self) (· = id) ?_ ?_ ?_ ?_ ?_ ?_
  · intro other apart
    simp [apart]
  · intro other apart
    simp [apart]
  · exact held_by_live live holds
  · exact owned.named_by_live live holds
  · intro other another same present
    simp [same] at present
  · intro held another same present
    simp [same] at present

/-- The close of an owned block finishes, and its owner learns of it. -/
theorem Owned.finish (owned : Owned heap) {self : Pointer} {wrapper : Wrapper} {id : HandleId}
    {block : Block} (live : heap.wrappers self = some wrapper) (holds : wrapper.handle = some id)
    (allocated : heap.blocks id = some block) (closing : block.phase = .closing) :
    Owned (((heap.markClosed id block).record (.closeCallback id)).putWrapper self
      (some { wrapper with handleClosed := true })) := by
  obtain ⟨found, found', valid, pooled, tagged, closed⟩ := owned.holds live holds
  obtain rfl : found = block := Option.some.inj (found'.symm.trans allocated)
  refine Matched.frame owned (· = self) (· = id) ?_ ?_ ?_ ?_ ?_ ?_
  · intro other apart
    simp [Heap.record, apart]
  · intro other apart
    simp [Heap.record, apart]
  · exact held_by_live live holds
  · exact owned.named_by_live live holds
  · intro other another same present
    simp only [same, Heap.putWrapper_wrappers, if_true, Option.some.injEq] at present
    subst present
    refine ⟨fun _ => rfl, ?_⟩
    intro held holds'
    obtain rfl : id = held := Option.some.inj (holds.symm.trans holds')
    have changed := (heap.markClosed_blocks id id found).trans (if_pos rfl)
    exact ⟨_, changed, by simp [ownership, tagged, same], pooled, by simp⟩
  · intro held another same present
    simp only [same, Heap.record, Heap.putWrapper_blocks, Heap.markClosed_blocks, if_true,
      Option.some.injEq] at present
    subst present
    refine ⟨⟨valid.tagged, fun _ _ => by simp, valid.foreign, ?_, ?_⟩, ?_⟩
    · intro _
      exact valid.callback (by simp [closing])
    · intro internal
      exact absurd (valid.internal internal).2.1 (by simp [closing])
    · intro other named
      have owner : self = other := by simpa [ownership, tagged] using named
      exact ⟨{ wrapper with handleClosed := true }, by simp [owner], by rw [same]; exact holds⟩

/-- A new wrapper owns a new block. The block has an address that no wrapper refers to, and the
wrapper was not there before. -/
theorem Owned.adopt (owned : Owned heap) (linked : Linked heap) {self : Pointer} (active : Bool)
    (vacant : heap.wrappers self = none) :
    Owned ({ heap.setBlock heap.fresh
          ⟨true, false, handleToData self, .opened, .null, active, true⟩ with
        fresh := heap.fresh + 1
        queue := heap.queue ++ [heap.fresh] }.putWrapper self (some ⟨some heap.fresh, false⟩)) := by
  refine Matched.frame owned (· = self) (· = heap.fresh) ?_ ?_ ?_ ?_ ?_ ?_
  · intro other apart
    simp [apart]
  · intro other apart
    simp [apart]
  · intro other another held same present
    rw [same, vacant] at present
    cases present
  · intro held another other same present
    rw [same, linked.unborn] at present
    cases present
  · intro other another same present
    simp only [same, Heap.putWrapper_wrappers, if_true, Option.some.injEq] at present
    subst present
    refine ⟨nofun, ?_⟩
    intro held holds
    obtain rfl : heap.fresh = held := Option.some.inj holds
    have born := (heap.setBlock_blocks heap.fresh heap.fresh
      ⟨true, false, handleToData self, .opened, .null, active, true⟩).trans (if_pos rfl)
    exact ⟨_, born, by simp [ownership, same], rfl, by simp⟩
  · intro held another same present
    simp only [same, Heap.putWrapper_blocks, Heap.setBlock_blocks, if_true,
      Option.some.injEq] at present
    subst present
    refine ⟨⟨fun _ _ => ⟨self, rfl⟩, fun _ null => absurd null (handleToData_ne_null self),
      nofun, fun impossible => absurd rfl impossible, nofun⟩, ?_⟩
    intro other named
    have owner : self = other := by simpa [ownership] using named
    exact ⟨⟨some heap.fresh, false⟩, by simp [owner], by simp [ownership, same]⟩

/-- Every move keeps the references mutual. The cases are those of the moves; each of them is a
change of one block and of one or two wrappers, for which there is a lemma above. -/
theorem Owned.move (owned : Owned heap) (linked : Linked heap) (move : Move heap next) :
    Owned next := by
  cases move with
  | close id block allocated opened external =>
    refine owned.setBlock _ allocated (by rfl) (by rfl) ?_ ?_ rfl
      (heap.markClosing_blocks id · block _)
    · simp [opened]
    · have before := owned.valid allocated
      constructor
      · exact before.tagged
      · intro _ _
        simp
      · exact before.foreign
      · intro _
        rfl
      · intro internal
        exact absurd internal (by simp [external])
  | abandon self wrapper id block content live holds allocated closing empty =>
    exact owned.abandon live holds allocated (by simp [closing]) content empty
  | rest self content idle empty =>
    refine Matched.frame owned (· = self) (fun _ => False) ?_ (fun _ _ => rfl) ?_
      (fun _ _ _ impossible => impossible.elim) ?_ (fun _ _ impossible => impossible.elim)
    · intro other apart
      exact (heap.putWrapper_wrappers self other content).trans (if_neg apart)
    · intro other wrapper id same live holds
      rw [same] at live
      simp [ownership, idle wrapper live] at holds
    · intro other wrapper same live
      simp only [same, Heap.putWrapper_wrappers, if_true] at live
      rw [empty wrapper live]
      exact ⟨fun _ => rfl, nofun⟩
  | transfer self org source id block apart idle live holds allocated =>
    exact owned.transfer apart idle live holds allocated
  | discard self wrapper id block live holds allocated closed =>
    exact owned.discard live holds
  | finishOwned self wrapper id block live holds allocated closing =>
    exact owned.finish live holds allocated closing
  | finishOrphan id block allocated closing pooled null =>
    refine Matched.frame owned (fun _ => False) (· = id) (fun _ _ => rfl) ?_
      (fun _ _ _ impossible => impossible.elim) ?_ (fun _ _ impossible => impossible.elim) ?_
    · intro other apart
      simp [Heap.record, apart]
    · intro held another self same present named
      rw [same, allocated] at present
      rw [← Option.some.inj present] at named
      simp [ownership, null] at named
    · intro held another same present
      simp [same] at present
  | finishForeign id block allocated closing outside =>
    refine owned.setBlock _ allocated (by rfl) (by rfl) ?_ ?_ rfl
      (heap.markClosed_blocks id · block)
    · simp [outside]
    · have before := owned.valid allocated
      constructor
      · exact before.tagged
      · intro pooled
        simp [outside] at pooled
      · exact before.foreign
      · intro _
        exact before.callback (by simp [closing])
      · intro internal
        have opened := (before.internal internal).2.1
        rw [closing] at opened
        cases opened
  | adopt self active vacant =>
    exact owned.adopt linked active vacant
  | share data active untagged =>
    refine Matched.frame owned (fun _ => False) (· = heap.fresh) (fun _ _ => rfl) ?_
      (fun _ _ _ impossible => impossible.elim) ?_ (fun _ _ impossible => impossible.elim) ?_
    · intro other apart
      exact (heap.setBlock_blocks heap.fresh other _).trans (if_neg apart)
    · intro held another self same present
      rw [same, linked.unborn] at present
      cases present
    · intro held another same present
      have born := (heap.setBlock_blocks heap.fresh heap.fresh
        ⟨false, false, data, .opened, .null, active, true⟩).trans (if_pos rfl)
      rw [same] at present
      obtain rfl := Option.some.inj (born.symm.trans present)
      refine ⟨⟨nofun, nofun, fun _ => untagged, fun impossible => absurd rfl impossible, nofun⟩, ?_⟩
      intro self named
      exact absurd (untagged.symm.trans named) (by simp)
  | flag id block active referenced allocated unreferenced =>
    refine owned.setBlock { block with active := active, referenced := referenced } allocated
      rfl rfl (fun _ => Iff.rfl) ?_ rfl (heap.setBlock_blocks id · _)
    have before := owned.valid allocated
    refine ⟨before.tagged, before.orphan, before.foreign, before.callback, ?_⟩
    intro internal
    exact ⟨(before.internal internal).1, (before.internal internal).2.1, unreferenced internal⟩

end Owned

end MoeUV
