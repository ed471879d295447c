import MoeUV.Foundation.Ranked
import MoeUV.Signal.Delivery

/-!
# The tree of the signal handles

`uv__signal_tree` holds the handles that watch a signal, those of one signal beside each
other and among them the ones that are not one-shot first. Whether the signal handler is
installed for a signal, and for how long, follows from the first handle.
-/

namespace MoeUV

open Foundation.Ranked

/-- The part of the order of the tree that does not depend on addresses. -/
def UvSignal.rank {ℓ : Type} (fields : UvSignal ℓ) : Nat :=
  2 * fields.signum + if fields.oneShot then 1 else 0

/-- The rank tells the signals apart. -/
theorem UvSignal.le_rank_iff {ℓ : Type} (fields : UvSignal ℓ) (signum : Nat) :
    2 * signum ≤ fields.rank ↔ signum ≤ fields.signum := by
  rw [rank]
  split <;> omega

/-- Among the handles of one signal, those that are not one-shot have the lower rank. -/
theorem UvSignal.rank_le_iff {ℓ : Type} (first second : UvSignal ℓ) :
    first.rank ≤ second.rank ↔ first.signum < second.signum ∨
      first.signum = second.signum ∧ (first.oneShot = true → second.oneShot = true) := by
  rw [rank, rank]
  cases first.oneShot <;> cases second.oneShot <;> simp <;> omega

namespace SignalWorld

variable {ℓ ν : Type} {world : SignalWorld ℓ ν} {handle : ν} {signum : Nat}

/-- The tree and the actions that are set agree with the handles. -/
structure Tree (handle : ν → UvSignal ℓ) (tree : List ν) (action : Nat → SigAction) : Prop where
  members : ∀ other, other ∈ tree ↔
    (handle other).opened = true ∧ (handle other).signum ≠ 0
  nodup : tree.Nodup
  ranked : Ascending (fun other => (handle other).rank) tree
  /-- A handle that is not one-shot keeps the signal handler installed. -/
  regular : ∀ other ∈ tree, (handle other).oneShot = false →
    action (handle other).signum = .handler
  /-- A signal that is not watched has its default action. -/
  unwatched : ∀ signum, (∀ other ∈ tree, (handle other).signum ≠ signum) →
    action signum = .default

/-- The tree is also in the order of the signals. -/
theorem signums {handles : ν → UvSignal ℓ} {tree : List ν}
    (ranked : Ascending (fun other => (handles other).rank) tree) :
    Ascending (fun other => (handles other).signum) tree := by
  refine coarsen ranked ?_
  intro first second order
  rcases ((handles first).rank_le_iff (handles second)).mp order with lower | ⟨same, _⟩
  · exact lower.le
  · exact same.le

/-- Where no first handle of a signal is found, no handle watches it. -/
theorem firstHandle_none (ranked : Ascending (fun other => (world.handle other).rank) world.tree)
    (none : world.firstHandle signum = none) :
    ∀ other ∈ world.tree, (world.handle other).signum ≠ signum := by
  intro other member
  rw [firstHandle] at none
  cases found : world.tree.find? fun handle => signum ≤ (world.handle handle).signum with
  | none =>
    have short := List.find?_eq_none.mp found other member
    simp at short
    omega
  | some first =>
    obtain ⟨_, reached, least⟩ := find?_some (signums ranked) found
    have reached : signum ≤ (world.handle first).signum := reached
    have order := least other member
    have another : (world.handle first).signum ≠ signum := by
      intro same
      rw [found] at none
      dsimp only at none
      rw [if_pos same] at none
      cases none
    rintro rfl
    exact another (le_antisymm (order le_rfl) reached)

/-- The first handle of a signal is one-shot only if all are. The tree has the handles of one
signal side by side, those that are not one-shot first. -/
theorem firstHandle_some {first : ν}
    (ranked : Ascending (fun other => (world.handle other).rank) world.tree)
    (some : world.firstHandle signum = some first) :
    first ∈ world.tree ∧ (world.handle first).signum = signum ∧
      ((world.handle first).oneShot = true → ∀ other ∈ world.tree,
        (world.handle other).signum = signum → (world.handle other).oneShot = true) := by
  rw [firstHandle] at some
  cases found : world.tree.find? fun handle => signum ≤ (world.handle handle).signum with
  | none =>
    rw [found] at some
    cases some
  | some least =>
    rw [found] at some
    dsimp only at some
    have here : (world.handle least).signum = signum := by
      by_contra another
      rw [if_neg another] at some
      cases some
    rw [if_pos here] at some
    cases some
    have ranks : world.tree.find? (fun handle => 2 * signum ≤ (world.handle handle).rank) =
        .some first := by
      rw [← found]
      congr 1
      funext handle
      exact decide_eq_decide.mpr ((world.handle handle).le_rank_iff signum)
    obtain ⟨member, _, lowest⟩ := find?_some ranked ranks
    refine ⟨member, here, ?_⟩
    intro oneShot other inside watches
    have order := lowest other inside
      (((world.handle other).le_rank_iff signum).mpr watches.ge)
    rcases (UvSignal.rank_le_iff _ _).mp order with lower | ⟨_, onlyOnce⟩
    · omega
    · exact onlyOnce oneShot

/-- `uv__signal_handler` goes through all handles that watch the signal. -/
theorem mem_watchers (kept : Tree world.handle world.tree world.action) (other : ν) :
    other ∈ world.watchers signum ↔
      other ∈ world.tree ∧ (world.handle other).signum = signum := by
  rw [watchers, walk_eq_filter (signums kept.ranked), List.mem_filter, decide_eq_true_eq]

/-- It visits each of them once. -/
theorem watchers_nodup (kept : Tree world.handle world.tree world.action) :
    (world.watchers signum).Nodup := by
  rw [watchers, walk_eq_filter (signums kept.ranked)]
  exact kept.nodup.filter _

/-- What the tree does not look at may change. -/
theorem Tree.congr {handles others : ν → UvSignal ℓ} {tree : List ν} {action : Nat → SigAction}
    (kept : Tree handles tree action)
    (watching : ∀ other, (others other).opened = true ∧ (others other).signum ≠ 0 ↔
      (handles other).opened = true ∧ (handles other).signum ≠ 0)
    (same : ∀ other ∈ tree, (others other).signum = (handles other).signum ∧
      (others other).oneShot = (handles other).oneShot) : Tree others tree action := by
  obtain ⟨members, nodup, ranked, regular, unwatched⟩ := kept
  refine ⟨?_, nodup, ?_, ?_, ?_⟩
  · intro other
    rw [members, watching]
  · refine Foundation.Ranked.congr ranked ?_
    intro other member
    obtain ⟨signum, oneShot⟩ := same other member
    rw [UvSignal.rank, UvSignal.rank, signum, oneShot]
  · intro other member
    obtain ⟨signum, oneShot⟩ := same other member
    rw [signum, oneShot]
    exact regular other member
  · intro signum free
    refine unwatched signum fun other member => ?_
    rw [← (same other member).1]
    exact free other member

section Stop

variable [LinearOrder ν]

/-- `uv__signal_stop` fails no assertion. The handle is in the tree when it watches a signal,
and the handler of the signal is installed as long as another handle watches it. -/
theorem signalStop_spec (kept : Tree world.handle world.tree world.action)
    (opened : (world.handle handle).opened = true) :
    ∃ action, world.signalStop handle = .ok { world with
        handle := Function.update world.handle handle { world.handle handle with signum := 0 }
        tree := world.tree.erase handle
        action := action } ∧
      Tree (Function.update world.handle handle { world.handle handle with signum := 0 })
        (world.tree.erase handle) action := by
  by_cases unwatching : (world.handle handle).signum = 0
  · have absent : handle ∉ world.tree := by
      rw [kept.members]
      simp [unwatching]
    have same : Function.update world.handle handle { world.handle handle with signum := 0 } =
        world.handle := by
      rw [← unwatching]
      exact Function.update_eq_self handle world.handle
    refine ⟨world.action, ?_, ?_⟩
    · rw [signalStop, if_pos unwatching, same, List.erase_of_not_mem absent]
    · rw [same, List.erase_of_not_mem absent]
      exact kept
  · have present : handle ∈ world.tree := (kept.members handle).mpr ⟨opened, unwatching⟩
    obtain ⟨members, nodup, ranked, regular, unwatched⟩ := kept
    have inside (other : ν) : other ∈ world.tree.erase handle ↔
        other ≠ handle ∧ other ∈ world.tree :=
      nodup.mem_erase_iff
    have rankedRest : Ascending (fun other => (world.handle other).rank)
        (world.tree.erase handle) := ranked.sublist List.erase_sublist
    have none : firstHandle { world with tree := world.tree.erase handle }
        (world.handle handle).signum = none → ∀ other ∈ world.tree.erase handle,
          (world.handle other).signum ≠ (world.handle handle).signum :=
      firstHandle_none rankedRest
    have some (first : ν) : firstHandle { world with tree := world.tree.erase handle }
        (world.handle handle).signum = some first → first ∈ world.tree.erase handle ∧
          (world.handle first).signum = (world.handle handle).signum ∧
          ((world.handle first).oneShot = true → ∀ other ∈ world.tree.erase handle,
            (world.handle other).signum = (world.handle handle).signum →
              (world.handle other).oneShot = true) :=
      firstHandle_some rankedRest
    have tree (action : Nat → SigAction) (regular : ∀ other ∈ world.tree.erase handle,
          (world.handle other).oneShot = false → action (world.handle other).signum = .handler)
        (unwatched : ∀ signum, (∀ other ∈ world.tree.erase handle,
          (world.handle other).signum ≠ signum) → action signum = .default) :
        Tree (Function.update world.handle handle { world.handle handle with signum := 0 })
          (world.tree.erase handle) action := by
      have same {other : ν} (left : other ∈ world.tree.erase handle) :
          Function.update world.handle handle { world.handle handle with signum := 0 } other =
            world.handle other := Function.update_of_ne ((inside other).mp left).1 _ _
      refine ⟨fun other => ?_, nodup.erase _,
        Foundation.Ranked.congr rankedRest fun other left => ?_, fun other left => ?_,
        fun signum free => unwatched signum fun other left => ?_⟩
      · rw [inside]
        by_cases own : other = handle
        · rw [own, Function.update_self]
          exact iff_of_false (fun both => both.1 rfl) fun both => both.2 rfl
        · rw [Function.update_of_ne own, and_iff_right own]
          exact members other
      · rw [same left]
      · rw [same left]
        exact regular other left
      · rw [← same left]
        exact free other left
    -- A signal that no other handle watches was not watched before, unless it is this one.
    have unwatchedBefore {signum : Nat} (free : ∀ other ∈ world.tree.erase handle,
        (world.handle other).signum ≠ signum) (apart : signum ≠ (world.handle handle).signum) :
        ∀ other ∈ world.tree, (world.handle other).signum ≠ signum := by
      intro other member
      by_cases own : other = handle
      · rw [own]
        exact apart.symm
      · exact free other ((inside other).mpr ⟨own, member⟩)
    rw [signalStop, if_neg unwatching, if_neg (by simpa using present)]
    dsimp only
    cases first : firstHandle { world with tree := world.tree.erase handle }
        (world.handle handle).signum with
    | none =>
      -- The last handle of the signal has gone.
      refine ⟨_, rfl, tree (Function.update world.action (world.handle handle).signum .default)
        (fun other left regularly => ?_) fun signum free => ?_⟩
      · rw [Function.update_of_ne (none first other left)]
        exact regular other ((inside other).mp left).2 regularly
      · by_cases own : signum = (world.handle handle).signum
        · rw [own, Function.update_self]
        · rw [Function.update_of_ne own]
          exact unwatched signum (unwatchedBefore free own)
    | some next =>
      obtain ⟨nextLeft, nextWatches, nextOnce⟩ := some next first
      dsimp only
      split
      case isTrue only =>
        -- Only one-shot handles are left, so the signal handler is to be called once.
        refine ⟨_, rfl, tree (Function.update world.action (world.handle handle).signum .once)
          (fun other left regularly => ?_) fun signum free => ?_⟩
        · have apart : (world.handle other).signum ≠ (world.handle handle).signum := by
            intro watches
            rw [nextOnce only.1 other left watches] at regularly
            cases regularly
          rw [Function.update_of_ne apart]
          exact regular other ((inside other).mp left).2 regularly
        · have apart : signum ≠ (world.handle handle).signum := by
            rintro rfl
            exact free next nextLeft nextWatches
          rw [Function.update_of_ne apart]
          exact unwatched signum (unwatchedBefore free apart)
      case isFalse =>
        refine ⟨_, rfl, tree world.action (fun other left regularly =>
          regular other ((inside other).mp left).2 regularly) fun signum free => ?_⟩
        refine unwatched signum (unwatchedBefore free ?_)
        rintro rfl
        exact free next nextLeft nextWatches

end Stop

section Order

variable [LinearOrder ℓ] [LinearOrder ν]

/-- What the order of the tree puts first has no higher rank, -/
theorem signalCompare_lower (other : ν) (before : world.signalCompare handle other = true) :
    (world.handle handle).rank ≤ (world.handle other).rank := by
  rw [signalCompare] at before
  refine (UvSignal.rank_le_iff _ _).mpr ?_
  by_cases lower : (world.handle handle).signum < (world.handle other).signum
  · exact Or.inl lower
  · rw [if_neg lower] at before
    by_cases higher : (world.handle other).signum < (world.handle handle).signum
    · rw [if_pos higher] at before
      cases before
    · rw [if_neg higher] at before
      refine Or.inr ⟨by omega, fun once => ?_⟩
      by_contra regular
      rw [Bool.not_eq_true] at regular
      rw [once, regular] at before
      cases before

/-- and what it puts behind has no lower one. -/
theorem signalCompare_higher (other : ν) (before : ¬world.signalCompare handle other = true) :
    (world.handle other).rank ≤ (world.handle handle).rank := by
  rw [signalCompare] at before
  refine (UvSignal.rank_le_iff _ _).mpr ?_
  by_cases lower : (world.handle handle).signum < (world.handle other).signum
  · rw [if_pos lower] at before
    exact absurd rfl before
  · rw [if_neg lower] at before
    by_cases higher : (world.handle other).signum < (world.handle handle).signum
    · exact Or.inl higher
    · rw [if_neg higher] at before
      refine Or.inr ⟨by omega, fun once => ?_⟩
      by_contra regular
      rw [Bool.not_eq_true] at regular
      rw [once, regular] at before
      exact before rfl

/-- `RB_INSERT` of a handle that begins to watch a signal. The order of the tree is that of the
comparison, so the handles of one signal stay side by side. -/
theorem Tree.insert {fields : UvSignal ℓ} (kept : Tree world.handle world.tree world.action)
    (unwatching : (world.handle handle).signum = 0) (others : SignalWorld ℓ ν)
    (handles : others.handle = Function.update world.handle handle fields)
    (opened : fields.opened = true) (watching : fields.signum ≠ 0) {action : Nat → SigAction}
    (regular : (∀ other ∈ world.tree, (world.handle other).oneShot = false →
        action (world.handle other).signum = .handler) ∧
      (fields.oneShot = false → action fields.signum = .handler))
    (unwatched : ∀ signum, signum ≠ fields.signum →
      (∀ other ∈ world.tree, (world.handle other).signum ≠ signum) → action signum = .default) :
    Tree others.handle (world.tree.orderedInsert (others.signalCompare · ·) handle) action := by
  have absent : handle ∉ world.tree := by
    rw [kept.members]
    simp [unwatching]
  obtain ⟨members, nodup, ranked, _, _⟩ := kept
  have inside (other : ν) : other ∈ world.tree.orderedInsert (others.signalCompare · ·) handle ↔
      other = handle ∨ other ∈ world.tree := List.mem_orderedInsert _
  have same {other : ν} (member : other ∈ world.tree) :
      others.handle other = world.handle other := by
    rw [handles]
    refine Function.update_of_ne ?_ _ _
    rintro rfl
    exact absent member
  have before : Ascending (fun other => (others.handle other).rank) world.tree := by
    refine Foundation.Ranked.congr ranked ?_
    intro other member
    rw [same member]
  refine ⟨?_, ?_, ?_, ?_, ?_⟩
  · intro other
    rw [inside, handles]
    by_cases own : other = handle
    · rw [own, Function.update_self]
      exact iff_of_true (Or.inl rfl) ⟨opened, watching⟩
    · rw [Function.update_of_ne own, or_iff_right own]
      exact members other
  · exact (List.perm_orderedInsert _ _ _).nodup_iff.mpr (List.nodup_cons.mpr ⟨absent, nodup⟩)
  · exact Foundation.Ranked.orderedInsert signalCompare_lower signalCompare_higher before
  · intro other member
    rcases (inside other).mp member with rfl | there
    · rw [handles, Function.update_self]
      exact regular.2
    · rw [same there]
      exact regular.1 other there
  · intro signum free
    refine unwatched signum ?_ ?_
    · have own := free handle ((inside handle).mpr (Or.inl rfl))
      rw [handles, Function.update_self] at own
      exact own.symm
    · intro other member
      have apart := free other ((inside other).mpr (Or.inr member))
      rw [same member] at apart
      exact apart

/-- A handle that watches no signal is put into the tree, or `sigaction` has failed, or
there is nothing to do. -/
theorem signalStart_spec (kept : Tree world.handle world.tree world.action)
    (opened : (world.handle handle).opened = true)
    (idle : signum = 0 ∨ signum = (world.handle handle).signum ∨
      (world.handle handle).signum = 0) (oneshot error : Bool) :
    world.signalStart handle signum oneshot error = world ∨
      signum ≠ 0 ∧ (world.handle handle).signum = 0 ∧
        ∃ oneShot tree action, world.signalStart handle signum oneshot error = { world with
            handle := Function.update world.handle handle { world.handle handle with
              signum := signum, oneShot := oneShot }
            tree := tree
            action := action } ∧
          Tree (Function.update world.handle handle { world.handle handle with
            signum := signum, oneShot := oneShot }) tree action := by
  rw [signalStart]
  by_cases same : signum = 0 ∨ signum = (world.handle handle).signum
  · rw [if_pos same]
    exact Or.inl rfl
  · have watching : signum ≠ 0 := fun zero => same (Or.inl zero)
    have unwatching : (world.handle handle).signum = 0 := by
      rcases idle with zero | own | unwatching
      · exact absurd zero watching
      · exact absurd (Or.inr own) same
      · exact unwatching
    have others {other : Nat} (apart : other ≠ signum) (action : SigAction)
        (free : ∀ handle ∈ world.tree, (world.handle handle).signum ≠ other) :
        Function.update world.action signum action other = .default := by
      rw [Function.update_of_ne apart]
      exact kept.unwatched other free
    rw [if_neg same]
    dsimp only
    split
    case isTrue => exact Or.inl rfl
    case isFalse =>
      refine Or.inr ⟨watching, unwatching, ?_⟩
      split
      case isTrue registers =>
        -- All handles that watch the signal are one-shot, and the one that begins to is not.
        refine ⟨_, _, _, rfl, kept.insert unwatching
          (setHandle (registerHandler world signum oneshot) handle { world.handle handle with
            signum := signum, oneShot := (world.handle handle).oneShot || oneshot })
          rfl opened watching ⟨fun other member regularly => ?_, fun regularly => ?_⟩
          fun other apart free => others apart _ free⟩
        · have once : (world.handle other).signum = signum →
              (world.handle other).oneShot = true := by
            intro watches
            cases found : world.firstHandle signum with
            | none => exact absurd watches (firstHandle_none kept.ranked found other member)
            | some first =>
              rw [found, Option.all_some, Bool.and_eq_true] at registers
              exact (firstHandle_some kept.ranked found).2.2 registers.2 other member watches
          have apart : (world.handle other).signum ≠ signum := by
            intro watches
            rw [once watches] at regularly
            cases regularly
          exact (Function.update_of_ne apart _ _).trans (kept.regular other member regularly)
        · have regular : oneshot = false := (Bool.or_eq_false_iff.mp regularly).2
          rw [regular]
          exact Function.update_self _ _ _
      case isFalse registered =>
        -- The signal handler is installed already, and not for one call if that matters.
        refine ⟨_, _, _, rfl, kept.insert unwatching
          (setHandle world handle { world.handle handle with
            signum := signum, oneShot := (world.handle handle).oneShot || oneshot })
          rfl opened watching ⟨kept.regular, fun regularly => ?_⟩
          fun other _ free => kept.unwatched other free⟩
        have regular : oneshot = false := (Bool.or_eq_false_iff.mp regularly).2
        cases found : world.firstHandle signum with
        | none =>
          rw [found] at registered
          exact absurd rfl registered
        | some first =>
          obtain ⟨member, watches, _⟩ := firstHandle_some kept.ranked found
          have firstRegular : (world.handle first).oneShot = false := by
            rw [found, regular] at registered
            simpa using registered
          have installed := kept.regular first member firstRegular
          rw [watches] at installed
          exact installed

end Order

end SignalWorld

end MoeUV
