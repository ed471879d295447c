import Mathlib.Tactic.Common

/-!
# Mutual references between two stores

Two stores whose entries may refer to each other: an entry of the left store
holds at most one entry of the right store, and an entry of the right store
names at most one entry of the left store. The references are mutual when every
held entry names its holder and every named entry holds its namer. A holder and
what it holds may also have to agree, and each entry may have to be well formed
by itself.

Mutual references form a partial matching, so nothing is held twice. The frame
rule says that a change to a part of both stores need only be justified inside
that part, provided that no reference leaves it.
-/

namespace Foundation.Mutual

universe u v w z
variable {ι : Type u} {κ : Type v} {α : Type w} {β : Type z}

/-- How the entries of two stores refer to each other, and what is required of
them. -/
structure Scheme (ι : Type u) (κ : Type v) (α : Type w) (β : Type z) where
  holds : α → Option κ
  names : β → Option ι
  agree : α → β → Prop
  leftValid : α → Prop
  rightValid : β → Prop

variable (scheme : Scheme ι κ α β)

/-- What is required of a left entry in front of a right store. -/
structure Held (right : κ → Option β) (i : ι) (a : α) : Prop where
  valid : scheme.leftValid a
  answered : ∀ k, scheme.holds a = some k →
    ∃ b, right k = some b ∧ scheme.names b = some i ∧ scheme.agree a b

/-- What is required of a right entry in front of a left store. -/
structure Named (left : ι → Option α) (k : κ) (b : β) : Prop where
  valid : scheme.rightValid b
  answered : ∀ i, scheme.names b = some i → ∃ a, left i = some a ∧ scheme.holds a = some k

/-- All references are mutual. -/
structure Matched (left : ι → Option α) (right : κ → Option β) : Prop where
  held : ∀ i a, left i = some a → Held scheme right i a
  named : ∀ k b, right k = some b → Named scheme left k b

variable {scheme} {left left' : ι → Option α} {right right' : κ → Option β}

/-- No right entry is held by two left entries. -/
theorem Matched.unique (matched : Matched scheme left right) {i j : ι} {a b : α} {k : κ}
    (first : left i = some a) (firstHolds : scheme.holds a = some k)
    (second : left j = some b) (secondHolds : scheme.holds b = some k) : i = j := by
  obtain ⟨x, present, named, _⟩ := (matched.held i a first).answered k firstHolds
  obtain ⟨y, present', named', _⟩ := (matched.held j b second).answered k secondHolds
  have same : x = y := Option.some.inj (present.symm.trans present')
  exact Option.some.inj (named.symm.trans (same ▸ named'))

/-- A change inside two sets of keys that no reference leaves keeps all
references mutual when the changed entries meet their requirements. -/
theorem Matched.frame (matched : Matched scheme left right)
    (inLeft : ι → Prop) (inRight : κ → Prop)
    (sameLeft : ∀ i, ¬ inLeft i → left' i = left i)
    (sameRight : ∀ k, ¬ inRight k → right' k = right k)
    (closedLeft : ∀ i a k, inLeft i → left i = some a → scheme.holds a = some k → inRight k)
    (closedRight : ∀ k b i, inRight k → right k = some b → scheme.names b = some i → inLeft i)
    (held : ∀ i a, inLeft i → left' i = some a → Held scheme right' i a)
    (named : ∀ k b, inRight k → right' k = some b → Named scheme left' k b) :
    Matched scheme left' right' := by
  constructor
  · intro i a present
    by_cases inside : inLeft i
    · exact held i a inside present
    · rw [sameLeft i inside] at present
      have before := matched.held i a present
      refine ⟨before.valid, ?_⟩
      intro k holds
      obtain ⟨b, there, names, agree⟩ := before.answered k holds
      have outside : ¬ inRight k := fun enters => inside (closedRight k b i enters there names)
      exact ⟨b, by rw [sameRight k outside, there], names, agree⟩
  · intro k b present
    by_cases inside : inRight k
    · exact named k b inside present
    · rw [sameRight k inside] at present
      have before := matched.named k b present
      refine ⟨before.valid, ?_⟩
      intro i names
      obtain ⟨a, there, holds⟩ := before.answered i names
      have outside : ¬ inLeft i := fun enters => inside (closedLeft i a k enters there holds)
      exact ⟨a, by rw [sameLeft i outside, there], holds⟩

end Foundation.Mutual
