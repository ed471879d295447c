import Mathlib.Algebra.BigOperators.Group.Finset.Basic
import Mathlib.Algebra.Order.BigOperators.Group.Finset
import Mathlib.Data.Fintype.BigOperators

/-!
# Sums over a table with one changed entry

A counter that is adjusted when an entry of a table changes stays the sum over the
table: the sum changes by the difference of the two entries. Counting the entries
with a property is a special case.
-/

namespace Foundation.Counting

universe u v w
variable {ι : Type u} {α : Type v} {M : Type w} [Fintype ι] [DecidableEq ι]

/-- The sum with the new entry, and the old entry, balance the sum with the old one,
and the new entry. -/
theorem sum_update [AddCommMonoid M] (value : α → M) (table : ι → α) (index : ι) (entry : α) :
    ∑ i, value (Function.update table index entry i) + value (table index) =
      ∑ i, value (table i) + value entry := by
  rw [← Finset.add_sum_erase _ _ (Finset.mem_univ index),
    ← Finset.add_sum_erase Finset.univ (fun i => value (table i)) (Finset.mem_univ index),
    Function.update_self, add_right_comm, add_comm (value entry), add_right_comm]
  have others : ∑ i ∈ Finset.univ.erase index, value (Function.update table index entry i) =
      ∑ i ∈ Finset.univ.erase index, value (table i) :=
    Finset.sum_congr rfl fun i member => by
      rw [Function.update_of_ne (Finset.ne_of_mem_erase member)]
  rw [others, add_right_comm, add_right_comm]

/-- A sum in which no other entry has grown has changed by the difference of the one entry at
most. -/
theorem sum_le_of_others {before after : ι → Nat} (index : ι)
    (others : ∀ i, i ≠ index → after i ≤ before i) :
    ∑ i, after i + before index ≤ ∑ i, before i + after index := by
  have rest : ∑ i ∈ Finset.univ.erase index, after i ≤ ∑ i ∈ Finset.univ.erase index, before i :=
    Finset.sum_le_sum fun i member => others i (Finset.ne_of_mem_erase member)
  rw [← Finset.add_sum_erase _ after (Finset.mem_univ index),
    ← Finset.add_sum_erase _ before (Finset.mem_univ index)]
  omega

/-- How many entries of a table have the property. -/
def occurrences (property : α → Prop) [DecidablePred property] (table : ι → α) : Nat :=
  ∑ i, if property (table i) then 1 else 0

variable {property : α → Prop} [DecidablePred property] {table : ι → α}

variable (property) (table) in
/-- One entry more or less has the property when one entry changes. -/
theorem occurrences_update (index : ι) (entry : α) :
    occurrences property (Function.update table index entry) +
        (if property (table index) then 1 else 0) =
      occurrences property table + if property entry then 1 else 0 :=
  sum_update (fun entry => if property entry then 1 else 0) table index entry

omit [DecidableEq ι] in
/-- Tables whose entries agree on the property have as many of them. -/
theorem occurrences_congr {other : ι → α}
    (same : ∀ i, property (table i) ↔ property (other i)) :
    occurrences property table = occurrences property other :=
  Finset.sum_congr rfl fun i _ => by simp only [same]

omit [DecidableEq ι] in
/-- No entry is counted exactly when none has the property. -/
theorem occurrences_eq_zero : occurrences property table = 0 ↔ ∀ i, ¬ property (table i) := by
  simp [occurrences]

end Foundation.Counting
