import Mathlib.Tactic.Common
import Mathlib.Data.BitVec

/-!
# Tagged wrapper pointers

A libuv loop may be shared with other libraries, so a handle that belongs to a
wrapper carries the wrapper's address with its most significant bit set in
`data`. The code asserts that addresses of wrappers have that bit clear; here an
address that lacks this property, or is null, cannot be built. Under it the tag
is lossless, and an untagged or null `data` denotes no wrapper.
-/

namespace MoeUV

/-- A machine word of the 64-bit host: `size_t` and `void*`. -/
abbrev Word := BitVec 64

/-- `numeric_limits<ssize_t>::min()` as an unsigned word. -/
def kMask : Word := 0x8000000000000000

/-- The address of a wrapper object. -/
structure Pointer where
  word : Word
  present : word ≠ 0
  untagged : word &&& kMask = 0
deriving DecidableEq

def handleToData (data : Pointer) : Word := data.word ||| kMask

/-- `none` is the null pointer. -/
def dataToHandle (data : Word) : Option Pointer :=
  if data = 0 ∨ data &&& kMask = 0 then none
  else if present : data &&& ~~~kMask ≠ 0 then
    some ⟨data &&& ~~~kMask, present, by rw [BitVec.and_assoc]; simp [kMask]⟩
  else none

/-- The null `data` denotes no wrapper. -/
@[simp] theorem dataToHandle_null : dataToHandle 0#64 = none := by
  simp [dataToHandle]

/-- Setting bits in the null word gives these bits. -/
theorem word_zero_or (word : Word) : 0 ||| word = word := BitVec.zero_or

/-- An address and the tag share no bit, so either can be masked out. -/
theorem untagged_cleared (data : Pointer) : data.word &&& ~~~kMask = data.word := by
  have whole : kMask ||| ~~~kMask = BitVec.allOnes 64 := by decide
  have split : data.word &&& (kMask ||| ~~~kMask) = data.word := by
    rw [whole, BitVec.and_allOnes]
  rwa [BitVec.and_or_distrib_left, data.untagged, word_zero_or] at split

/-- The tag bit of tagged data is set. -/
theorem handleToData_tagged (data : Pointer) : handleToData data &&& kMask = kMask := by
  rw [handleToData, BitVec.and_comm, BitVec.and_or_distrib_left, BitVec.and_self,
    BitVec.and_comm kMask, data.untagged, word_zero_or]

/-- Clearing the tag bit recovers the address. -/
theorem handleToData_cleared (data : Pointer) : handleToData data &&& ~~~kMask = data.word := by
  rw [handleToData, BitVec.and_comm, BitVec.and_or_distrib_left, BitVec.and_comm _ data.word,
    untagged_cleared]
  simp [kMask]

/-- Tagged data is never null. -/
@[simp] theorem handleToData_ne_null (data : Pointer) : handleToData data ≠ 0#64 := by
  intro null
  have tagged := handleToData_tagged data
  rw [null] at tagged
  exact absurd tagged (by decide)

/-- The wrapper is recovered from the data it was stored in. -/
@[simp] theorem dataToHandle_handleToData (data : Pointer) :
    dataToHandle (handleToData data) = some data := by
  have tagged : ¬ (handleToData data = 0 ∨ handleToData data &&& kMask = 0) := by
    rintro (null | clear)
    · exact handleToData_ne_null data null
    · rw [handleToData_tagged] at clear
      exact absurd clear (by decide)
  have present : handleToData data &&& ~~~kMask ≠ 0 := by
    rw [handleToData_cleared]
    exact data.present
  simp only [dataToHandle, tagged, if_false, present, ne_eq, not_false_eq_true, dif_pos,
    Option.some.injEq]
  cases data
  simp only [handleToData_cleared]

end MoeUV
