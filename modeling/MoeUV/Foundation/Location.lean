import Mathlib.Data.List.Nodup
import Mathlib.Logic.Function.Basic
import Mathlib.Tactic.Common

/-!
# Where things are

Several places hold items, and a table notes for each item the place that holds it. An item
that is carried from one place to another is taken out here and put in there; the other places
hold what they held, and the other items stay where they are.
-/

namespace Foundation.Location

universe u v
variable {π : Type u} {α : Type v} {holds holds' : π → α → Prop} {place : α → Option π}
  {item : α} {source target : π}

/-- Each item is in the place that is noted for it, and in no other. -/
def Located (holds : π → α → Prop) (place : α → Option π) : Prop :=
  ∀ somewhere item, holds somewhere item ↔ place item = some somewhere

/-- The table holds for any account of the places that says the same. -/
theorem Located.stay (located : Located holds place)
    (same : ∀ somewhere item, holds' somewhere item ↔ holds somewhere item) :
    Located holds' place := by
  intro somewhere item
  rw [same]
  exact located somewhere item

/-- An item that is nowhere is in no place. -/
theorem Located.nowhere (located : Located holds place) (absent : place item = none)
    (somewhere : π) : ¬ holds somewhere item := by
  rw [located, absent]
  simp

/-- An item is in one place only. -/
theorem Located.elsewhere (located : Located holds place) (held : place item = some source)
    {somewhere : π} (apart : somewhere ≠ source) : ¬ holds somewhere item := by
  rw [located, held]
  exact fun same => apart (Option.some.inj same).symm

/-- Some of the items of a place, or all of them, are carried to another at once. Each item is
at one place before and at one place afterwards, so it is enough to say where the items of the
two places come from. -/
theorem Located.pour (located : Located holds place) {poured : α → Prop} [DecidablePred poured]
    (inside : ∀ item, poured item → holds source item)
    (out : ∀ item, holds' source item ↔ holds source item ∧ ¬ poured item)
    (into : ∀ item, holds' target item ↔ poured item ∨ holds target item)
    (others : ∀ somewhere, somewhere ≠ source → somewhere ≠ target →
      ∀ item, holds' somewhere item ↔ holds somewhere item) :
    Located holds' (fun item => if poured item then some target else place item) := by
  intro somewhere item
  dsimp only
  by_cases moves : poured item
  · rw [if_pos moves]
    have held := (located source item).mp (inside item moves)
    by_cases here : somewhere = target
    · rw [here, into]
      exact iff_of_true (Or.inl moves) rfl
    · refine iff_of_false ?_ fun same => here (Option.some.inj same).symm
      by_cases there : somewhere = source
      · rw [there, out]
        exact fun still => still.2 moves
      · rw [others somewhere there here]
        exact located.elsewhere held there
  · rw [if_neg moves, ← located]
    by_cases here : somewhere = target
    · rw [here, into]
      exact or_iff_right moves
    · by_cases there : somewhere = source
      · rw [there, out]
        exact and_iff_left moves
      · exact others somewhere there here item

variable [DecidableEq α]

/-- An item is carried from one place to another. -/
theorem Located.move (located : Located holds place) (held : place item = some source)
    (out : ∀ other, holds' source other ↔ holds source other ∧ other ≠ item)
    (into : ∀ other, holds' target other ↔ other = item ∨ holds target other)
    (others : ∀ somewhere, somewhere ≠ source → somewhere ≠ target →
      ∀ other, holds' somewhere other ↔ holds somewhere other) :
    Located holds' (Function.update place item (some target)) := by
  have carried : Located holds' (fun other => if other = item then some target else place other) :=
    located.pour (fun other same => by rw [same, located, held]) out into others
  intro somewhere other
  rw [Function.update_apply]
  exact carried somewhere other

/-- An item is taken out of every place but one, and is in that one afterwards. -/
theorem Located.replace (located : Located holds place)
    (into : ∀ other, holds' target other ↔ other = item ∨ holds target other)
    (out : ∀ somewhere, somewhere ≠ target →
      ∀ other, holds' somewhere other ↔ holds somewhere other ∧ other ≠ item) :
    Located holds' (Function.update place item (some target)) := by
  intro somewhere other
  by_cases here : somewhere = target
  · rw [here, into, Function.update_apply]
    by_cases own : other = item
    · rw [if_pos own]
      exact iff_of_true (Or.inl own) rfl
    · rw [if_neg own, or_iff_right own]
      exact located target other
  · rw [out somewhere here, Function.update_apply]
    by_cases own : other = item
    · rw [if_pos own]
      exact iff_of_false (fun still => still.2 own) fun same => here (Option.some.inj same).symm
    · rw [if_neg own, and_iff_left own]
      exact located somewhere other

/-- An item comes to its first place. -/
theorem Located.put (located : Located holds place) (absent : place item = none)
    (into : ∀ other, holds' target other ↔ other = item ∨ holds target other)
    (others : ∀ somewhere, somewhere ≠ target →
      ∀ other, holds' somewhere other ↔ holds somewhere other) :
    Located holds' (Function.update place item (some target)) := by
  refine located.replace into fun somewhere here other => ?_
  rw [others somewhere here]
  refine (and_iff_left_of_imp fun held same => ?_).symm
  rw [same] at held
  exact located.nowhere absent somewhere held

/-- An item leaves its last place. -/
theorem Located.take (located : Located holds place) (held : place item = some source)
    (out : ∀ other, holds' source other ↔ holds source other ∧ other ≠ item)
    (others : ∀ somewhere, somewhere ≠ source →
      ∀ other, holds' somewhere other ↔ holds somewhere other) :
    Located holds' (Function.update place item none) := by
  intro somewhere other
  by_cases own : other = item
  · rw [own, Function.update_self]
    refine iff_of_false ?_ (by simp)
    by_cases here : somewhere = source
    · rw [here, out]
      exact fun still => still.2 rfl
    · rw [others somewhere here]
      exact located.elsewhere held here
  · rw [Function.update_of_ne own, ← located]
    by_cases here : somewhere = source
    · rw [here, out]
      exact and_iff_left own
    · exact others somewhere here other

section Lists

omit [DecidableEq α] in
/-- An item is taken off the front of a list without repetitions. -/
theorem mem_tail_iff {rest : List α} (fresh : item ∉ rest) (other : α) :
    other ∈ rest ↔ other ∈ item :: rest ∧ other ≠ item := by
  constructor
  · intro member
    exact ⟨List.mem_cons_of_mem item member, fun same => fresh (same ▸ member)⟩
  · rintro ⟨member, different⟩
    exact (List.mem_cons.mp member).resolve_left different

/-- An item is filtered out of a list. -/
theorem mem_filter_ne_iff {items : List α} (other : α) :
    other ∈ items.filter (· ≠ item) ↔ other ∈ items ∧ other ≠ item := by
  rw [List.mem_filter, decide_eq_true_iff]

omit [DecidableEq α] in
/-- An item is appended to a list. -/
theorem mem_append_singleton_iff {items : List α} (other : α) :
    other ∈ items ++ [item] ↔ other = item ∨ other ∈ items := by
  rw [List.mem_append, List.mem_singleton]
  exact or_comm

omit [DecidableEq α] in
/-- A list without repetitions has none after an item it did not have is appended. -/
theorem nodup_append_singleton {items : List α} (distinct : items.Nodup) (fresh : item ∉ items) :
    (items ++ [item]).Nodup := by
  rw [← List.concat_eq_append]
  exact distinct.concat fresh

end Lists

section Families

/-! Many places of one kind, such as the queues of several owners: an item is in one of them
when some owner has it. -/

universe w x
variable {ι : Type w} {β : Type x} [DecidableEq ι] {family : ι → β} {index : ι} {changed : β}

omit [DecidableEq α] in
/-- What a changed entry has in common with the one before is unchanged everywhere. -/
theorem update_same {γ : Type v} (field : β → γ) (same : field changed = field (family index))
    (owner : ι) : field (Function.update family index changed owner) = field (family owner) := by
  by_cases own : owner = index
  · rw [own, Function.update_self]
    exact same
  · rw [Function.update_of_ne own]

omit [DecidableEq α] in
/-- The owner has what it had. -/
theorem exists_update_stay (inside : β → α → Prop)
    (same : ∀ other, inside changed other ↔ inside (family index) other) (other : α) :
    (∃ owner, inside (Function.update family index changed owner) other) ↔
      ∃ owner, inside (family owner) other := by
  refine exists_congr fun owner => ?_
  by_cases own : owner = index
  · rw [own, Function.update_self]
    exact same other
  · rw [Function.update_of_ne own]

omit [DecidableEq α] in
/-- The owner gets some items more. -/
theorem exists_update_put (carried : α → Prop) (inside : β → α → Prop)
    (into : ∀ other, inside changed other ↔ carried other ∨ inside (family index) other)
    (other : α) : (∃ owner, inside (Function.update family index changed owner) other) ↔
      carried other ∨ ∃ owner, inside (family owner) other := by
  constructor
  · rintro ⟨owner, has⟩
    by_cases own : owner = index
    · rw [own, Function.update_self, into] at has
      exact has.imp_right fun had => ⟨index, had⟩
    · rw [Function.update_of_ne own] at has
      exact Or.inr ⟨owner, has⟩
  · rintro (gets | ⟨owner, had⟩)
    · refine ⟨index, ?_⟩
      rw [Function.update_self]
      exact (into other).mpr (Or.inl gets)
    · refine ⟨owner, ?_⟩
      by_cases own : owner = index
      · rw [own, Function.update_self]
        rw [own] at had
        exact (into other).mpr (Or.inr had)
      · rw [Function.update_of_ne own]
        exact had

omit [DecidableEq α] in
/-- The owner gives items away that no other owner has. -/
theorem exists_update_take (carried : α → Prop) (inside : β → α → Prop)
    (only : ∀ other owner, carried other → inside (family owner) other → owner = index)
    (out : ∀ other, inside changed other ↔ inside (family index) other ∧ ¬ carried other)
    (other : α) : (∃ owner, inside (Function.update family index changed owner) other) ↔
      (∃ owner, inside (family owner) other) ∧ ¬ carried other := by
  constructor
  · rintro ⟨owner, has⟩
    by_cases own : owner = index
    · rw [own, Function.update_self, out] at has
      exact ⟨⟨index, has.1⟩, has.2⟩
    · rw [Function.update_of_ne own] at has
      exact ⟨⟨owner, has⟩, fun gives => own (only other owner gives has)⟩
  · rintro ⟨⟨owner, had⟩, keeps⟩
    refine ⟨owner, ?_⟩
    by_cases own : owner = index
    · rw [own, Function.update_self, out]
      exact ⟨own ▸ had, keeps⟩
    · rw [Function.update_of_ne own]
      exact had

end Families

end Foundation.Location
