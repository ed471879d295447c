import Mathlib.Data.Finset.Image
import Mathlib.Logic.Equiv.Basic
import Mathlib.Order.Interval.Finset.Nat
import Mathlib.Tactic.Common

/-!
# Binary heaps as layouts

The places of a binary heap are numbered row by row from one: the children of a
place are its double and the place after that, and its parent is its half. A
layout says which element is at which place; the elements are compared by a key.

Raising an element exchanges it with its parent while its key is smaller, and
lowering it exchanges it with the smaller of its children while that key is
smaller. An element put anywhere into an ordered layout is brought to a right
place by lowering it and then raising it, and one of the two does nothing.
-/

namespace Foundation.BinaryHeap

universe u v
variable {α : Type u} {κ : Type v} [LinearOrder κ] (key : α → κ)

/-- No element has a smaller key than the one at its parent. -/
def Ordered (layout : Nat → α) (size : Nat) : Prop :=
  ∀ place, 2 ≤ place → place ≤ size → key (layout (place / 2)) ≤ key (layout place)

/-- The elements at the places of a layout. -/
def members [DecidableEq α] (layout : Nat → α) (size : Nat) : Finset α :=
  (Finset.Icc 1 size).image layout

/-- The elements at two places change places. -/
def exchange (layout : Nat → α) (first second : Nat) : Nat → α :=
  fun place => layout (Equiv.swap first second place)

/-- Exchange with the parent while that has a greater key. -/
def raise (layout : Nat → α) (place : Nat) : Nat → α :=
  if 2 ≤ place ∧ key (layout place) < key (layout (place / 2)) then
    raise (exchange layout (place / 2) place) (place / 2)
  else layout
termination_by place

/-- The candidate if it is there and has a smaller key. -/
def better (layout : Nat → α) (size best candidate : Nat) : Nat :=
  if candidate ≤ size ∧ key (layout candidate) < key (layout best) then candidate else best

/-- The place of the smallest key among a place and its children. -/
def smallest (layout : Nat → α) (size place : Nat) : Nat :=
  better key layout size (better key layout size place (2 * place)) (2 * place + 1)

section Smallest

variable (layout : Nat → α) (size place best candidate : Nat)

/-- The better of two places is one of them, and the second only if it is inside. -/
theorem better_cases : better key layout size best candidate = best ∨
    better key layout size best candidate = candidate ∧ candidate ≤ size := by
  unfold better
  split
  · rename_i wins
    exact Or.inr ⟨rfl, wins.1⟩
  · exact Or.inl rfl

/-- Its key is not above that of the first, -/
theorem better_le_best :
    key (layout (better key layout size best candidate)) ≤ key (layout best) := by
  unfold better
  split
  · rename_i wins
    exact wins.2.le
  · exact le_rfl

/-- nor above that of the second, if that is inside. -/
theorem better_le_candidate (inside : candidate ≤ size) :
    key (layout (better key layout size best candidate)) ≤ key (layout candidate) := by
  unfold better
  split
  · exact le_rfl
  · rename_i loses
    exact not_lt.mp fun less => loses ⟨inside, less⟩

/-- The place with the smallest key is the node itself or one of its children that are inside. -/
theorem smallest_cases : smallest key layout size place = place ∨
    smallest key layout size place = 2 * place ∧ 2 * place ≤ size ∨
    smallest key layout size place = 2 * place + 1 ∧ 2 * place + 1 ≤ size := by
  rcases better_cases key layout size (better key layout size place (2 * place))
    (2 * place + 1) with same | right
  · rw [smallest, same]
    exact (better_cases key _ _ _ _).imp id Or.inl
  · exact Or.inr (Or.inr right)

/-- The smallest key is not greater than the key of the place. -/
theorem smallest_le : key (layout (smallest key layout size place)) ≤ key (layout place) :=
  (better_le_best key _ _ _ _).trans (better_le_best key _ _ _ _)

/-- It is not greater than the key of a child. -/
theorem smallest_le_child {child : Nat} (below : child / 2 = place) (inside : child ≤ size) :
    key (layout (smallest key layout size place)) ≤ key (layout child) := by
  have either : child = 2 * place ∨ child = 2 * place + 1 := by omega
  rcases either with rfl | rfl
  · exact (better_le_best key _ _ _ _).trans (better_le_candidate key _ _ _ _ inside)
  · exact better_le_candidate key _ _ _ _ inside

/-- It is inside when the node is. -/
theorem smallest_inside (inside : place ≤ size) : smallest key layout size place ≤ size := by
  rcases smallest_cases key layout size place with
    same | ⟨same, left⟩ | ⟨same, right⟩ <;> omega

/-- Another place than the place itself is one of its children. -/
theorem smallest_half (moves : smallest key layout size place ≠ place) :
    smallest key layout size place / 2 = place := by
  rcases smallest_cases key layout size place with
    same | ⟨same, left⟩ | ⟨same, right⟩ <;> omega

end Smallest

/-- Exchange with the smallest child while that has a smaller key; the layout, and
where the element has come to. -/
def lower (layout : Nat → α) (size place : Nat) : (Nat → α) × Nat :=
  if place < smallest key layout size place ∧ smallest key layout size place ≤ size then
    lower (exchange layout place (smallest key layout size place)) size
      (smallest key layout size place)
  else (layout, place)
termination_by size - place

section Exchange

variable {layout : Nat → α} {size first second place : Nat}

/-- The first place has what the second had, -/
@[simp] theorem exchange_first : exchange layout first second first = layout second := by
  rw [exchange, Equiv.swap_apply_left]

/-- and the other way round. -/
@[simp] theorem exchange_second : exchange layout first second second = layout first := by
  rw [exchange, Equiv.swap_apply_right]

/-- All other places keep what they had. -/
theorem exchange_other (one : place ≠ first) (two : place ≠ second) :
    exchange layout first second place = layout place := by
  rw [exchange, Equiv.swap_apply_of_ne_of_ne one two]

/-- A place inside goes to a place inside. -/
theorem swap_inside (one : first ∈ Finset.Icc 1 size) (two : second ∈ Finset.Icc 1 size)
    (inside : place ∈ Finset.Icc 1 size) : Equiv.swap first second place ∈ Finset.Icc 1 size := by
  rw [Equiv.swap_apply_def]
  split
  · exact two
  · split
    · exact one
    · exact inside

/-- Two places that are exchanged hold the same members together. -/
theorem members_exchange [DecidableEq α] (one : first ∈ Finset.Icc 1 size)
    (two : second ∈ Finset.Icc 1 size) :
    members (exchange layout first second) size = members layout size := by
  ext element
  simp only [members, Finset.mem_image]
  constructor
  · rintro ⟨place, inside, rfl⟩
    exact ⟨_, swap_inside one two inside, rfl⟩
  · rintro ⟨place, inside, rfl⟩
    refine ⟨Equiv.swap first second place, swap_inside one two inside, ?_⟩
    rw [exchange, Equiv.swap_apply_self]

/-- Nothing is at two places afterwards if nothing was before. -/
theorem injOn_exchange (one : first ∈ Finset.Icc 1 size) (two : second ∈ Finset.Icc 1 size)
    (distinct : Set.InjOn layout (Finset.Icc 1 size)) :
    Set.InjOn (exchange layout first second) (Finset.Icc 1 size) := by
  intro place inside other inside' same
  exact (Equiv.swap first second).injective
    (distinct (swap_inside one two inside) (swap_inside one two inside') same)

end Exchange

section Order

variable {key} {layout : Nat → α} {size place : Nat}

/-- The root has the smallest key. -/
theorem Ordered.root_le (ordered : Ordered key layout size) {place : Nat} (positive : 1 ≤ place)
    (inside : place ≤ size) : key (layout 1) ≤ key (layout place) := by
  induction place using Nat.strongRecOn with
  | ind place inductionHypothesis =>
    by_cases root : place = 1
    · rw [root]
    · have above := inductionHypothesis (place / 2) (by omega) (by omega) (by omega)
      exact above.trans (ordered place (by omega) inside)

/-- Only the pair above the place may be out of order, and the children of the place
have no smaller keys than its parent. -/
structure Raisable (key : α → κ) (layout : Nat → α) (size place : Nat) : Prop where
  apart : ∀ other, 2 ≤ other → other ≤ size → other ≠ place →
    key (layout (other / 2)) ≤ key (layout other)
  across : ∀ child, child ≤ size → child / 2 = place → 2 ≤ place →
    key (layout (place / 2)) ≤ key (layout child)

/-- Only the pairs below the place may be out of order, and the children of the place
have no smaller keys than its parent. -/
structure Lowerable (key : α → κ) (layout : Nat → α) (size place : Nat) : Prop where
  apart : ∀ other, 2 ≤ other → other ≤ size → other / 2 ≠ place →
    key (layout (other / 2)) ≤ key (layout other)
  across : ∀ child, child ≤ size → child / 2 = place → 2 ≤ place →
    key (layout (place / 2)) ≤ key (layout child)

/-- One exchange with the parent. The element that goes down is the old parent of both children,
so it is not greater than what is below it now. -/
theorem Raisable.up (raisable : Raisable key layout size place) (below : 2 ≤ place)
    (inside : place ≤ size) (less : key (layout place) < key (layout (place / 2))) :
    Raisable key (exchange layout (place / 2) place) size (place / 2) := by
  have parent : place / 2 ≠ place := by omega
  constructor
  · intro other positive bounded apart
    by_cases here : other = place
    · rw [here, exchange_first, exchange_second]
      exact less.le
    · rw [exchange_other apart here]
      by_cases sibling : other / 2 = place / 2
      · rw [sibling, exchange_first]
        have above := raisable.apart other positive bounded here
        rw [sibling] at above
        exact less.le.trans above
      · by_cases child : other / 2 = place
        · rw [child, exchange_second]
          exact raisable.across other bounded child below
        · rw [exchange_other sibling child]
          exact raisable.apart other positive bounded here
  · intro child bounded half positive
    have above := raisable.apart (place / 2) positive (by omega) parent
    rw [exchange_other (by omega) (by omega)]
    by_cases here : child = place
    · rw [here, exchange_second]
      exact above
    · rw [exchange_other (by omega) here]
      have next := raisable.apart child (by omega) bounded here
      rw [half] at next
      exact above.trans next

/-- A node whose key alone may be below that of its parent is raised, and the heap is in order. -/
theorem raise_ordered (raisable : Raisable key layout size place) (inside : place ≤ size) :
    Ordered key (raise key layout place) size := by
  induction layout, place using raise.induct key with
  | case1 layout place less inductionHypothesis =>
    rw [raise, if_pos less]
    exact inductionHypothesis (raisable.up less.1 inside less.2) (by omega)
  | case2 layout place stops =>
    rw [raise, if_neg stops]
    intro other positive bounded
    by_cases here : other = place
    · subst here
      exact not_lt.mp fun less => stops ⟨positive, less⟩
    · exact raisable.apart other positive bounded here

/-- One exchange with the smallest child. The child that goes up is the smallest of the three,
so it may stand above the other two. -/
theorem Lowerable.down (lowerable : Lowerable key layout size place)
    (moves : place < smallest key layout size place)
    (inside : smallest key layout size place ≤ size) :
    Lowerable key (exchange layout place (smallest key layout size place)) size
      (smallest key layout size place) := by
  have half := smallest_half key layout size place (Nat.ne_of_gt moves)
  have least {child : Nat} (below : child / 2 = place) (bounded : child ≤ size) :=
    smallest_le_child key layout size place below bounded
  have no_greater := smallest_le key layout size place
  generalize smallest key layout size place = moved at *
  constructor
  · intro other second bounded apart
    by_cases here : other = place
    · rw [here, exchange_first, exchange_other (by omega) (by omega)]
      exact lowerable.across moved inside half (by omega)
    · by_cases child : other / 2 = place
      · rw [child, exchange_first]
        by_cases self : other = moved
        · rw [self, exchange_second]
          exact no_greater
        · rw [exchange_other here self]
          exact least child bounded
      · rw [exchange_other child apart]
        by_cases self : other = moved
        · exact absurd (self ▸ half) child
        · rw [exchange_other here self]
          exact lowerable.apart other second bounded child
  · intro child bounded below _
    rw [half, exchange_first, exchange_other (by omega) (by omega), ← below]
    exact lowerable.apart child (by omega) bounded (by omega)

/-- A node whose key alone may be above those of its children is lowered, and the heap is in
order. -/
theorem lower_ordered (lowerable : Lowerable key layout size place) (positive : 1 ≤ place)
    (above : 2 ≤ place → key (layout (place / 2)) ≤ key (layout place)) :
    Ordered key (lower key layout size place).1 size := by
  induction layout, place using lower.induct key size with
  | case1 layout place moves inductionHypothesis =>
    rw [lower, if_pos moves]
    refine inductionHypothesis (lowerable.down moves.1 moves.2) (by omega) ?_
    intro _
    rw [smallest_half key layout size place (Nat.ne_of_gt moves.1), exchange_first, exchange_second]
    exact smallest_le key layout size place
  | case2 layout place stops =>
    rw [lower, if_neg stops]
    have stays : smallest key layout size place = place := by
      rcases smallest_cases key layout size place with
        same | ⟨same, left⟩ | ⟨same, right⟩ <;> omega
    intro other second bounded
    by_cases child : other / 2 = place
    · have least := smallest_le_child key layout size place child bounded
      rwa [stays, ← child] at least
    · exact lowerable.apart other second bounded child

/-- An element in an ordered layout is not raised. -/
theorem Ordered.raise_eq (ordered : Ordered key layout size) (inside : place ≤ size) :
    raise key layout place = layout := by
  rw [raise, if_neg]
  rintro ⟨below, less⟩
  exact absurd (ordered place below inside) (not_le.mpr less)

/-- The pairs that the place belongs to may be out of order, and its children have no
smaller keys than its parent. -/
structure Replaced (key : α → κ) (layout : Nat → α) (size place : Nat) : Prop where
  apart : ∀ other, 2 ≤ other → other ≤ size → other ≠ place → other / 2 ≠ place →
    key (layout (other / 2)) ≤ key (layout other)
  across : ∀ child, child ≤ size → child / 2 = place → 2 ≤ place →
    key (layout (place / 2)) ≤ key (layout child)

/-- It does not leave the heap on its way down, -/
theorem lower_place_inside (key : α → κ) (layout : Nat → α) (inside : place ≤ size) :
    (lower key layout size place).2 ≤ size := by
  induction layout, place using lower.induct key size with
  | case1 layout place moves inductionHypothesis =>
    rw [lower, if_pos moves]
    exact inductionHypothesis moves.2
  | case2 layout place stops =>
    rw [lower, if_neg stops]
    exact inside

/-- The lowered element is at the place that lowering says. -/
theorem lower_element (key : α → κ) (layout : Nat → α) (size place : Nat) :
    (lower key layout size place).1 (lower key layout size place).2 =
    layout place := by
  induction layout, place using lower.induct key size with
  | case1 layout place moves inductionHypothesis =>
    rw [lower, if_pos moves, inductionHypothesis, exchange_second]
  | case2 layout place stops => rw [lower, if_neg stops]

/-- and never comes up again. -/
theorem le_lower_place (key : α → κ) (layout : Nat → α) (size place : Nat) :
    place ≤ (lower key layout size place).2 := by
  induction layout, place using lower.induct key size with
  | case1 layout place moves inductionHypothesis =>
    rw [lower, if_pos moves]
    exact moves.1.le.trans inductionHypothesis
  | case2 layout place stops => rw [lower, if_neg stops]

/-- Lowering the element and then raising it restores the order. An element that is not too
small for its place is lowered, and stays where it comes to rest; one that is too small for its
place is not moved by the lowering. -/
theorem Replaced.restore (replaced : Replaced key layout size place) (positive : 1 ≤ place)
    (inside : place ≤ size) :
    Ordered key (raise key (lower key layout size place).1 (lower key layout size place).2)
      size := by
  by_cases above : 2 ≤ place → key (layout (place / 2)) ≤ key (layout place)
  · have lowerable : Lowerable key layout size place := by
      refine ⟨fun other second bounded child => ?_, replaced.across⟩
      by_cases here : other = place
      · subst here
        exact above second
      · exact replaced.apart other second bounded here child
    have ordered := lower_ordered lowerable positive above
    rwa [ordered.raise_eq (lower_place_inside key layout inside)]
  · -- The element belongs above its parent, and so above everything below the place.
    rw [Classical.not_imp, not_le] at above
    obtain ⟨below, less⟩ := above
    have least {child : Nat} (bounded : child ≤ size) (half : child / 2 = place) :
        key (layout place) ≤ key (layout child) :=
      less.le.trans (replaced.across child bounded half below)
    have stays : lower key layout size place = (layout, place) := by
      rw [lower, if_neg]
      rintro ⟨moves, bounded⟩
      have smaller : better key layout size place (2 * place) = place := by
        rw [better, if_neg]
        rintro ⟨there, less⟩
        exact absurd (least there (by omega)) (not_le.mpr less)
      have same : smallest key layout size place = place := by
        rw [smallest, smaller, better, if_neg]
        rintro ⟨there, less⟩
        exact absurd (least there (by omega)) (not_le.mpr less)
      omega
    rw [stays]
    refine raise_ordered ⟨fun other second bounded here => ?_, replaced.across⟩ inside
    by_cases child : other / 2 = place
    · rw [child]
      exact least bounded child
    · exact replaced.apart other second bounded here child

end Order

section Contents

variable {key} {layout : Nat → α} {size place : Nat}

/-- What exchanges inside the layout keep, raising keeps. -/
theorem raise_keeps (property : (Nat → α) → Prop)
    (kept : ∀ layout first second, first ∈ Finset.Icc 1 size → second ∈ Finset.Icc 1 size →
      property layout → property (exchange layout first second))
    (inside : place ≤ size) (holds : property layout) : property (raise key layout place) := by
  induction layout, place using raise.induct key with
  | case1 layout place less inductionHypothesis =>
    rw [raise, if_pos less]
    refine inductionHypothesis (by omega) (kept layout _ _ ?_ ?_ holds) <;>
      rw [Finset.mem_Icc] <;> omega
  | case2 layout place stops =>
    rw [raise, if_neg stops]
    exact holds

/-- What exchanges inside the layout keep, lowering keeps. -/
theorem lower_keeps (property : (Nat → α) → Prop)
    (kept : ∀ layout first second, first ∈ Finset.Icc 1 size → second ∈ Finset.Icc 1 size →
      property layout → property (exchange layout first second))
    (positive : 1 ≤ place) (holds : property layout) :
    property (lower key layout size place).1 := by
  induction layout, place using lower.induct key size with
  | case1 layout place moves inductionHypothesis =>
    rw [lower, if_pos moves]
    refine inductionHypothesis (by omega) (kept layout _ _ ?_ ?_ holds) <;>
      rw [Finset.mem_Icc] <;> omega
  | case2 layout place stops =>
    rw [lower, if_neg stops]
    exact holds

/-- An element put below the last place may only have to be raised. -/
theorem Ordered.append (ordered : Ordered key layout size) (added : α) :
    Raisable key (Function.update layout (size + 1) added) (size + 1) (size + 1) := by
  refine ⟨fun other second bounded here => ?_, fun child bounded below second => ?_⟩
  · rw [Function.update_of_ne here, Function.update_of_ne (by omega)]
    exact ordered other second (by omega)
  · omega

/-- The last element may be put into the place of another. -/
theorem Ordered.fill (ordered : Ordered key layout size) (inside : place < size) :
    Replaced key (Function.update layout place (layout size)) (size - 1) place := by
  refine ⟨fun other second bounded here child => ?_, fun child bounded below second => ?_⟩
  · rw [Function.update_of_ne here, Function.update_of_ne child]
    exact ordered other second (by omega)
  · rw [Function.update_of_ne (by omega), Function.update_of_ne (by omega), ← below]
    exact (ordered (child / 2) (by omega) (by omega)).trans (ordered child (by omega) (by omega))

/-- The heap without its last place is in order, too. -/
theorem Ordered.drop (ordered : Ordered key layout size) : Ordered key layout (size - 1) :=
  fun place second bounded => ordered place second (by omega)

variable [DecidableEq α]

/-- One more place holds one more member. -/
theorem members_append (added : α) :
    members (Function.update layout (size + 1) added) (size + 1) =
      insert added (members layout size) := by
  ext element
  simp only [members, Finset.mem_image, Finset.mem_insert, Finset.mem_Icc, Function.update_apply]
  constructor
  · rintro ⟨place, inside, rfl⟩
    by_cases last : place = size + 1
    · rw [if_pos last]
      exact Or.inl rfl
    · rw [if_neg last]
      exact Or.inr ⟨place, by omega, rfl⟩
  · rintro (rfl | ⟨place, inside, rfl⟩)
    · exact ⟨size + 1, by omega, if_pos rfl⟩
    · exact ⟨place, by omega, if_neg (by omega)⟩

/-- Filling the place of an element with the last one removes it. -/
theorem members_fill (distinct : Set.InjOn layout (Finset.Icc 1 size)) (positive : 1 ≤ place)
    (inside : place < size) :
    members (Function.update layout place (layout size)) (size - 1) =
      (members layout size).erase (layout place) := by
  have same {one other : Nat} (bounded : 1 ≤ one ∧ one ≤ size)
      (bounded' : 1 ≤ other ∧ other ≤ size) :
      layout one = layout other ↔ one = other :=
    distinct.eq_iff (Finset.mem_coe.mpr (Finset.mem_Icc.mpr bounded))
      (Finset.mem_coe.mpr (Finset.mem_Icc.mpr bounded'))
  ext element
  simp only [members, Finset.mem_image, Finset.mem_erase, Finset.mem_Icc, Function.update_apply]
  constructor
  · rintro ⟨other, bounded, rfl⟩
    by_cases here : other = place
    · rw [if_pos here, ne_eq, same (by omega) (by omega)]
      exact ⟨by omega, size, by omega, rfl⟩
    · rw [if_neg here, ne_eq, same (by omega) (by omega)]
      exact ⟨here, other, by omega, rfl⟩
  · rintro ⟨apart, other, bounded, rfl⟩
    rw [ne_eq, same (by omega) (by omega)] at apart
    by_cases last : other = size
    · exact ⟨place, by omega, by rw [if_pos rfl, last]⟩
    · exact ⟨other, by omega, if_neg apart⟩

/-- Dropping the last place removes its element. -/
theorem members_drop (distinct : Set.InjOn layout (Finset.Icc 1 size)) (positive : 1 ≤ size) :
    members layout (size - 1) = (members layout size).erase (layout size) := by
  ext element
  simp only [members, Finset.mem_image, Finset.mem_erase, Finset.mem_Icc]
  constructor
  · rintro ⟨other, bounded, rfl⟩
    refine ⟨fun equal => ?_, other, by omega, rfl⟩
    have last := distinct (Finset.mem_coe.mpr (Finset.mem_Icc.mpr ⟨bounded.1, by omega⟩))
      (Finset.mem_coe.mpr (Finset.mem_Icc.mpr ⟨positive, Nat.le_refl size⟩)) equal
    omega
  · rintro ⟨apart, other, bounded, rfl⟩
    refine ⟨other, ⟨bounded.1, ?_⟩, rfl⟩
    have last : other ≠ size := by
      rintro rfl
      exact apart rfl
    omega

/-- There are as many members as places. -/
theorem card_members (distinct : Set.InjOn layout (Finset.Icc 1 size)) :
    (members layout size).card = size := by
  rw [members, Finset.card_image_of_injOn distinct, Nat.card_Icc, Nat.add_sub_cancel]

/-- Raising a node loses no member and adds none, -/
theorem members_raise (inside : place ≤ size) :
    members (raise key layout place) size = members layout size :=
  raise_keeps (fun other => members other size = members layout size)
    (fun _ _ _ one two same => (members_exchange one two).trans same) inside rfl

/-- and neither does lowering it. -/
theorem members_lower (positive : 1 ≤ place) :
    members (lower key layout size place).1 size = members layout size :=
  lower_keeps (fun other => members other size = members layout size)
    (fun _ _ _ one two same => (members_exchange one two).trans same) positive rfl

end Contents

end Foundation.BinaryHeap
