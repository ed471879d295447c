import Mathlib.Tactic.Common

/-!
# Fixed-size memory regions

A region holds a fixed number of cells. Storing a block replaces the cells it
covers and keeps the others, so a copy of a small structure into a larger one
leaves the tail as it was. Reads name a cell by a bounded index; there is no
default value for a cell that does not exist.

Unsigned words are split into octets with the least significant octet first,
the order in which a little-endian host keeps them in memory. Reversing that
order is the conversion to and from network order.
-/

namespace Foundation.Memory

universe u
variable {β : Type u} {size : Nat}

/-- A block of cells whose number is part of its type. -/
structure Region (β : Type u) (size : Nat) where
  cells : List β
  sized : cells.length = size
deriving DecidableEq

namespace Region

def read (region : Region β size) (index : Fin size) : β :=
  region.cells.get ⟨index.val, region.sized.symm ▸ index.isLt⟩

/-- Copy a block over the region, starting at the given offset. -/
def store (region : Region β size) (offset : Nat) (block : List β)
    (fits : offset + block.length ≤ size) : Region β size where
  cells := region.cells.take offset ++ block ++ region.cells.drop (offset + block.length)
  sized := by
    have sized := region.sized
    simp only [List.length_append, List.length_take, List.length_drop]
    omega

/-- A covered cell reads back from the stored block. -/
theorem read_store_inside (region : Region β size) (offset : Nat) (block : List β)
    (fits : offset + block.length ≤ size) (index : Fin size)
    (above : offset ≤ index.val) (below : index.val - offset < block.length) :
    (region.store offset block fits).read index = block[index.val - offset] := by
  have sized := region.sized
  have taken : (region.cells.take offset).length = offset := by
    rw [List.length_take]
    omega
  simp only [read, store, List.get_eq_getElem, List.append_assoc]
  rw [List.getElem_append_right (by omega)]
  simp only [taken]
  rw [List.getElem_append_left below]

/-- A cell outside the stored block keeps its contents. -/
theorem read_store_outside (region : Region β size) (offset : Nat) (block : List β)
    (fits : offset + block.length ≤ size) (index : Fin size)
    (outside : index.val < offset ∨ offset + block.length ≤ index.val) :
    (region.store offset block fits).read index = region.read index := by
  have sized := region.sized
  have taken : (region.cells.take offset).length = offset := by
    rw [List.length_take]
    omega
  simp only [read, store, List.get_eq_getElem, List.append_assoc]
  rcases outside with before | after
  · rw [List.getElem_append_left (by omega), List.getElem_take]
  · rw [List.getElem_append_right (by omega), List.getElem_append_right (by omega),
      List.getElem_drop]
    congr 1
    omega

/-- Two regions begin alike exactly when their leading cells read alike. -/
theorem take_eq_iff (region other : Region β size) (count : Nat) :
    region.cells.take count = other.cells.take count ↔
      ∀ index : Fin size, index.val < count → region.read index = other.read index := by
  have sized := region.sized
  have sized' := other.sized
  constructor
  · intro same index inside
    have agrees := congrArg (fun cells => cells[index.val]?) same
    have stored : index.val < region.cells.length := by omega
    have stored' : index.val < other.cells.length := by omega
    rw [List.getElem?_take_of_lt inside, List.getElem?_take_of_lt inside,
      List.getElem?_eq_getElem stored, List.getElem?_eq_getElem stored'] at agrees
    exact Option.some.inj agrees
  · intro same
    apply List.ext_getElem
    · rw [List.length_take, List.length_take, sized, sized']
    · intro place here there
      rw [List.length_take] at here
      rw [List.getElem_take, List.getElem_take]
      exact same ⟨place, by omega⟩ (by simp only; omega)

end Region

/-- One octet of memory. -/
abbrev Octet := BitVec 8

/-- The octets of a 16-bit word, least significant first. -/
def octets16 (word : BitVec 16) : List Octet :=
  [word.extractLsb' 0 8, word.extractLsb' 8 8]

/-- The octets of a 32-bit word, least significant first. -/
def octets32 (word : BitVec 32) : List Octet :=
  [word.extractLsb' 0 8, word.extractLsb' 8 8, word.extractLsb' 16 8, word.extractLsb' 24 8]

def word16 (low high : Octet) : BitVec 16 := high ++ low

def word32 (first second third fourth : Octet) : BitVec 32 :=
  fourth ++ (third ++ (second ++ first))

/-- Exchange the two octets of a 16-bit word. -/
def swap16 (word : BitVec 16) : BitVec 16 :=
  word16 (word.extractLsb' 8 8) (word.extractLsb' 0 8)

/-- Reverse the four octets of a 32-bit word. -/
def swap32 (word : BitVec 32) : BitVec 32 :=
  word32 (word.extractLsb' 24 8) (word.extractLsb' 16 8) (word.extractLsb' 8 8)
    (word.extractLsb' 0 8)

/-- A word is put together from its two bytes, -/
@[simp] theorem word16_extract (word : BitVec 16) :
    word16 (word.extractLsb' 0 8) (word.extractLsb' 8 8) = word := by
  have whole : word.extractLsb' 8 8 ++ word.extractLsb' 0 8 = word.extractLsb' 0 16 :=
    BitVec.extractLsb'_append_extractLsb'_eq_extractLsb' (by decide)
  rw [word16, whole, BitVec.extractLsb'_eq_self]

/-- and a long one from its four. -/
@[simp] theorem word32_extract (word : BitVec 32) :
    word32 (word.extractLsb' 0 8) (word.extractLsb' 8 8) (word.extractLsb' 16 8)
      (word.extractLsb' 24 8) = word := by
  have two : word.extractLsb' 8 8 ++ word.extractLsb' 0 8 = word.extractLsb' 0 16 :=
    BitVec.extractLsb'_append_extractLsb'_eq_extractLsb' (by decide)
  have three : word.extractLsb' 16 8 ++ word.extractLsb' 0 16 = word.extractLsb' 0 24 :=
    BitVec.extractLsb'_append_extractLsb'_eq_extractLsb' (by decide)
  have four : word.extractLsb' 24 8 ++ word.extractLsb' 0 24 = word.extractLsb' 0 32 :=
    BitVec.extractLsb'_append_extractLsb'_eq_extractLsb' (by decide)
  rw [word32, two, three, four, BitVec.extractLsb'_eq_self]

/-- Two octets joined by a shift and a disjunction. -/
theorem shift_or_eq_word16 (high low : Octet) :
    (high.setWidth 16 <<< 8) ||| low.setWidth 16 = word16 low high := by
  rw [word16, BitVec.append_def, BitVec.shiftLeftZeroExtend_eq, BitVec.setWidth'_eq]

section Octets

variable (first second third fourth : Octet)

/-- The low byte of a word, -/
theorem word16_low : (word16 first second).extractLsb' 0 8 = first :=
  BitVec.extractLsb'_append_eq_right

/-- and its high byte, are those it was put together from. -/
theorem word16_high : (word16 first second).extractLsb' 8 8 = second :=
  BitVec.extractLsb'_append_eq_left

/-- The first byte of a long word, -/
theorem word32_first : (word32 first second third fourth).extractLsb' 0 8 = first := by
  rw [word32, BitVec.extractLsb'_append_eq_of_add_le (by decide),
    BitVec.extractLsb'_append_eq_of_add_le (by decide), BitVec.extractLsb'_append_eq_right]

/-- its second, -/
theorem word32_second : (word32 first second third fourth).extractLsb' 8 8 = second := by
  rw [word32, BitVec.extractLsb'_append_eq_of_add_le (by decide),
    BitVec.extractLsb'_append_eq_of_add_le (by decide), BitVec.extractLsb'_append_eq_left]

/-- its third -/
theorem word32_third : (word32 first second third fourth).extractLsb' 16 8 = third := by
  rw [word32, BitVec.extractLsb'_append_eq_of_add_le (by decide)]
  exact BitVec.extractLsb'_append_eq_left

/-- and its fourth are those it was put together from. -/
theorem word32_fourth : (word32 first second third fourth).extractLsb' 24 8 = fourth :=
  BitVec.extractLsb'_append_eq_left

end Octets

/-- A word of two octets determines them. -/
theorem word16_inj {low high low' high' : Octet} :
    word16 low high = word16 low' high' ↔ low = low' ∧ high = high' := by
  constructor
  · intro same
    constructor
    · rw [← word16_low low high, same, word16_low]
    · rw [← word16_high low high, same, word16_high]
  · rintro ⟨rfl, rfl⟩
    rfl

/-- A word of four octets determines them. -/
theorem word32_inj {a b c d a' b' c' d' : Octet} :
    word32 a b c d = word32 a' b' c' d' ↔ a = a' ∧ b = b' ∧ c = c' ∧ d = d' := by
  constructor
  · intro same
    refine ⟨?_, ?_, ?_, ?_⟩
    · rw [← word32_first a b c d, same, word32_first]
    · rw [← word32_second a b c d, same, word32_second]
    · rw [← word32_third a b c d, same, word32_third]
    · rw [← word32_fourth a b c d, same, word32_fourth]
  · rintro ⟨rfl, rfl, rfl, rfl⟩
    rfl

/-- Swapped twice, the bytes of a word are where they were, -/
@[simp] theorem swap16_swap16 (word : BitVec 16) : swap16 (swap16 word) = word := by
  rw [swap16, swap16, word16_low, word16_high, word16_extract]

/-- and so are those of a long one. -/
@[simp] theorem swap32_swap32 (word : BitVec 32) : swap32 (swap32 word) = word := by
  rw [swap32, swap32, word32_first, word32_second, word32_third, word32_fourth, word32_extract]

end Foundation.Memory
