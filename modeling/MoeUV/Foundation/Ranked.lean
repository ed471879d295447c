import Mathlib.Data.List.Sort
import Mathlib.Tactic.Common

/-!
# Lists in the order of a rank

A list whose items do not decrease in rank, as an ordered tree gives it when it is walked.
Inserting by an order that refines the rank, and removing, keep the list so. What a walk
from the first item of a rank finds, up to the first of a higher one, is all items of the
rank.
-/

namespace Foundation.Ranked

universe u
variable {α : Type u} {rank : α → Nat} {items : List α}

/-- The items do not decrease in rank. -/
def Ascending (rank : α → Nat) (items : List α) : Prop :=
  items.Pairwise fun first second => rank first ≤ rank second

/-- An order that puts items of a lower rank first refines the rank. -/
theorem orderedInsert {before : α → α → Prop} [DecidableRel before] {item : α}
    (lower : ∀ other, before item other → rank item ≤ rank other)
    (higher : ∀ other, ¬before item other → rank other ≤ rank item)
    (ranked : Ascending rank items) : Ascending rank (items.orderedInsert before item) := by
  induction items with
  | nil => exact List.pairwise_singleton _ _
  | cons first rest inductionHypothesis =>
    obtain ⟨least, later⟩ := List.pairwise_cons.mp ranked
    rw [List.orderedInsert_cons]
    split
    · rename_i precedes
      have below := lower first precedes
      refine List.pairwise_cons.mpr ⟨?_, ranked⟩
      intro other member
      rcases List.mem_cons.mp member with rfl | inside
      · exact below
      · exact Nat.le_trans below (least other inside)
    · rename_i follows
      refine List.pairwise_cons.mpr ⟨?_, inductionHypothesis later⟩
      intro other member
      rcases (List.mem_orderedInsert before).mp member with rfl | inside
      · exact higher first follows
      · exact least other inside

/-- Only the ranks of the items matter. -/
theorem congr {other : α → Nat} (ranked : Ascending rank items)
    (same : ∀ item ∈ items, other item = rank item) : Ascending other items := by
  refine List.Pairwise.imp_of_mem ?_ ranked
  intro first second inFirst inSecond order
  rw [same first inFirst, same second inSecond]
  exact order

/-- A coarser rank. -/
theorem coarsen {other : α → Nat} (ranked : Ascending rank items)
    (coarser : ∀ first second, rank first ≤ rank second → other first ≤ other second) :
    Ascending other items := ranked.imp fun order => coarser _ _ order

/-- The walk over the items of one rank. Items below the rank are dropped, those of the rank
follow one another, and the first one above it ends the walk. -/
theorem walk_eq_filter (ranked : Ascending rank items) (bound : Nat) :
    (items.dropWhile fun item => rank item < bound).takeWhile (fun item => rank item = bound) =
      items.filter fun item => rank item = bound := by
  induction items with
  | nil => rfl
  | cons first rest inductionHypothesis =>
    obtain ⟨least, later⟩ := List.pairwise_cons.mp ranked
    rcases Nat.lt_trichotomy (rank first) bound with below | here | above
    · rw [List.dropWhile_cons_of_pos (by simpa using below), inductionHypothesis later,
        List.filter_cons_of_neg (by simpa using Nat.ne_of_lt below)]
    · have stays : (rest.dropWhile fun item => rank item < bound) = rest := by
        cases rest with
        | nil => rfl
        | cons second others =>
          have order := least second List.mem_cons_self
          exact List.dropWhile_cons_of_neg (by simp; omega)
      have tail := inductionHypothesis later
      rw [stays] at tail
      rw [List.dropWhile_cons_of_neg (by simp [here]),
        List.takeWhile_cons_of_pos (by simpa using here),
        List.filter_cons_of_pos (by simpa using here), tail]
    · have none : (rest.filter fun item => rank item = bound) = [] := by
        refine List.filter_eq_nil_iff.mpr ?_
        intro item member
        have order := least item member
        simp
        omega
      rw [List.dropWhile_cons_of_neg (by simp; omega), List.takeWhile_cons_of_neg (by simp; omega),
        List.filter_cons_of_neg (by simp; omega), none]

/-- The first item of at least some rank. -/
theorem find?_some {bound : Nat} {item : α} (ranked : Ascending rank items)
    (found : items.find? (fun item => bound ≤ rank item) = some item) :
    item ∈ items ∧ bound ≤ rank item ∧
      ∀ other ∈ items, bound ≤ rank other → rank item ≤ rank other := by
  obtain ⟨reached, before, after, rfl, earlier⟩ := List.find?_eq_some_iff_append.mp found
  refine ⟨by simp, by simpa using reached, ?_⟩
  intro other member bounded
  obtain ⟨_, later, _⟩ := List.pairwise_append.mp ranked
  rcases List.mem_append.mp member with first | second
  · have short := earlier other first
    simp at short
    omega
  · rcases List.mem_cons.mp second with rfl | last
    · exact Nat.le_refl _
    · exact (List.pairwise_cons.mp later).1 other last

end Foundation.Ranked
