import Mathlib.Tactic.Common

/-!
# The first longest run

A run is a block of consecutive positions that all have a property. A search
that goes through the positions once keeps the run that is still open and the
best run that has ended, where a run is better when it is longer, and a run of
the same length is not. Closing the open run compares the two, and the result is
the first of the longest runs. Runs of a single position do not count.
-/

namespace Foundation.Runs

/-- A loop over the indices of an array goes through its elements with their
indices. -/
theorem foldl_finRange {α β : Type} {size : Nat} (elements : Vector α size)
    (round : β → α × Nat → β) (state : β) :
    (List.finRange size).foldl (fun state index => round state (elements.get index, index)) state =
      elements.toList.zipIdx.foldl round state := by
  have entries : elements.toList.zipIdx =
      (List.finRange size).map (fun index => (elements.get index, index.val)) := by
    apply List.ext_getElem
    · simp
    · intro index inside listed
      simp [Vector.get]
  rw [entries, List.foldl_map]

variable {marked : Nat → Prop}

/-- The positions of a block below a bound all have the property. -/
structure Run (marked : Nat → Prop) (bound start length : Nat) : Prop where
  inside : start + length ≤ bound
  all : ∀ offset < length, marked (start + offset)

/-- The first longest run below a bound, if there is one of two or more positions. -/
def Best (marked : Nat → Prop) (bound longest : Nat) : Option Nat → Prop
  | none => longest = 0 ∧ ∀ start length, Run marked bound start length → length ≤ 1
  | some place => 1 < longest ∧ Run marked bound place longest ∧
      ∀ start length, Run marked bound start length →
        length < longest ∨ length = longest ∧ place ≤ start

/-- A run stays a run when the bound grows. -/
theorem Run.widen {bound wider start length : Nat} (run : Run marked bound start length)
    (more : bound ≤ wider) : Run marked wider start length :=
  ⟨Nat.le_trans run.inside more, run.all⟩

/-- The best run cannot be continued on either side. A run that could be continued would be
longer than the longest one, or begin before the first of the longest ones. -/
theorem Best.maximal {bound longest place : Nat} (best : Best marked bound longest (some place)) :
    (place + longest < bound → ¬ marked (place + longest)) ∧
      (0 < place → ¬ marked (place - 1)) := by
  obtain ⟨long, run, first⟩ := best
  constructor
  · intro room more
    have longer : Run marked bound place (longest + 1) := by
      refine ⟨room, ?_⟩
      intro offset inside
      by_cases last : offset = longest
      · rw [last]
        exact more
      · exact run.all offset (by omega)
    have bounded := first place (longest + 1) longer
    omega
  · intro room before
    have longer : Run marked bound (place - 1) (longest + 1) := by
      refine ⟨by have inside := run.inside; omega, ?_⟩
      intro offset inside
      by_cases head : offset = 0
      · rw [head]
        exact before
      · have further := run.all (offset - 1) (by omega)
        have same : place + (offset - 1) = place - 1 + offset := by omega
        rwa [same] at further
    have bounded := first (place - 1) (longest + 1) longer
    omega

/-- Before any position there is no run. -/
theorem best_zero : Best marked 0 0 none := by
  refine ⟨rfl, ?_⟩
  intro start length run
  have inside := run.inside
  omega

/-- A position without the property belongs to no run. Every run up to the next position that is
not empty lies before this one. -/
theorem Best.skip {bound longest : Nat} {place : Option Nat}
    (best : Best marked bound longest place) (unmarked : ¬ marked bound) :
    Best marked (bound + 1) longest place := by
  have narrow (start length : Nat) (run : Run marked (bound + 1) start length)
      (nonempty : 0 < length) : Run marked bound start length := by
    refine ⟨?_, run.all⟩
    by_contra outside
    have inside := run.inside
    have last := run.all (length - 1) (by omega)
    have position : start + (length - 1) = bound := by omega
    rw [position] at last
    exact unmarked last
  cases place with
  | none =>
    obtain ⟨nothing, short⟩ := best
    refine ⟨nothing, ?_⟩
    intro start length run
    by_cases nonempty : 0 < length
    · exact short start length (narrow start length run nonempty)
    · omega
  | some place =>
    obtain ⟨long, own, first⟩ := best
    refine ⟨long, own.widen (Nat.le_succ bound), ?_⟩
    intro start length run
    by_cases nonempty : 0 < length
    · exact first start length (narrow start length run nonempty)
    · omega

/-- A run that reaches beyond a position without the property begins behind it. -/
theorem Run.behind {bound start length edge : Nat} (run : Run marked bound start length)
    (bounded : edge = 0 ∨ ¬ marked (edge - 1)) (beyond : edge < start + length) : edge ≤ start := by
  rcases bounded with zero | unmarked
  · omega
  · by_contra before
    have across := run.all (edge - 1 - start) (by omega)
    have position : start + (edge - 1 - start) = edge - 1 := by omega
    rw [position] at across
    exact unmarked across

/-- Closing the open run: it wins when it is longer and more than one position. A run that
reaches beyond the edge is a part of the open one, which cannot be continued to the left, so no
other run can win. -/
theorem Best.close {edge count longest : Nat} {place : Option Nat}
    (best : Best marked edge longest place) (own : Run marked (edge + count) edge count)
    (bounded : edge = 0 ∨ ¬ marked (edge - 1)) :
    if count > longest ∧ count > 1 then Best marked (edge + count) count (some edge)
    else Best marked (edge + count) longest place := by
  have split (start length : Nat) (run : Run marked (edge + count) start length) :
      Run marked edge start length ∨ edge ≤ start ∧ length ≤ count := by
    by_cases within : start + length ≤ edge
    · exact Or.inl ⟨within, run.all⟩
    · have behind := run.behind bounded (Nat.not_le.mp within)
      have inside := run.inside
      exact Or.inr ⟨behind, by omega⟩
  split
  · rename_i wins
    refine ⟨wins.2, own, ?_⟩
    intro start length run
    rcases split start length run with earlier | later
    · cases place with
      | none =>
        have short := best.2 start length earlier
        omega
      | some place =>
        have bounded := best.2.2 start length earlier
        omega
    · omega
  · rename_i loses
    cases place with
    | none =>
      obtain ⟨nothing, short⟩ := best
      refine ⟨nothing, ?_⟩
      intro start length run
      rcases split start length run with earlier | later
      · exact short start length earlier
      · omega
    | some place =>
      obtain ⟨long, run, first⟩ := best
      refine ⟨long, run.widen (Nat.le_add_right edge count), ?_⟩
      intro start length other
      rcases split start length other with earlier | later
      · exact first start length earlier
      · have inside := run.inside
        omega

end Foundation.Runs
