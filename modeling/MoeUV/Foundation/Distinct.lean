import Mathlib.Data.List.Basic

/-!
# First appearances

`List.eraseDups` keeps the first of several equal elements. A loop that appends what it
has not met yet computes it, and so does one over other values that are compared by a
key. The first element with some property is the same with and without repetitions.
-/

namespace Foundation.Distinct

universe u v
variable {α : Type u} {κ : Type v} [BEq κ] [LawfulBEq κ]

/-- Append what is not there yet. -/
def keep (kept : List κ) (key : κ) : List κ := if key ∈ kept then kept else kept ++ [key]

/-- A key that is there is not appended again. -/
theorem keep_of_mem {kept : List κ} {key : κ} (member : key ∈ kept) : keep kept key = kept :=
  if_pos member

/-- A key that was kept is there. -/
theorem mem_keep (kept : List κ) (key : κ) : key ∈ keep kept key := by
  by_cases member : key ∈ kept
  · rwa [keep_of_mem member]
  · rw [keep, if_neg member]
    exact List.mem_append_right kept (List.mem_singleton_self key)

/-- The loop, from what has been kept before. -/
theorem foldl_keep (kept keys : List κ) :
    keys.foldl keep kept = kept ++ (keys.filter (· ∉ kept)).eraseDups := by
  induction keys generalizing kept with
  | nil => simp
  | cons key rest inductionHypothesis =>
    rw [List.foldl_cons, inductionHypothesis]
    by_cases member : key ∈ kept
    · rw [keep_of_mem member, List.filter_cons_of_neg (by simpa using member)]
    · rw [keep, if_neg member, List.filter_cons_of_pos (by simpa using member),
        List.eraseDups_cons, List.filter_filter, List.append_assoc, List.singleton_append]
      congr 4
      funext other
      by_cases same : other = key
      · simp [same]
      · simp [same]

/-- Keeping one key after the other leaves each key at its first place. -/
theorem foldl_keep_nil (keys : List κ) : keys.foldl keep [] = keys.eraseDups := by
  simp [foldl_keep]

/-- Values that are compared by a key. -/
theorem map_eraseDupsBy (key : α → κ) (same : α → α → Bool)
    (agrees : ∀ first second, same first second = (key first == key second))
    (values : List α) : (values.eraseDupsBy same).map key = (values.map key).eraseDups := by
  induction length : values.length using Nat.strongRecOn generalizing values with
  | _ count inductionHypothesis =>
    cases values with
    | nil => rfl
    | cons value rest =>
      rw [List.eraseDupsBy_cons, List.map_cons, List.map_cons, List.eraseDups_cons]
      congr 1
      have shorter : (rest.filter fun other => same other value = false).length < count := by
        rw [← length, List.length_cons]
        exact Nat.lt_succ_of_le (List.length_filter_le _ rest)
      rw [inductionHypothesis _ shorter _ rfl, List.filter_map]
      congr 2
      apply List.filter_congr
      intro other member
      by_cases equal : key other = key value
      · simp [agrees, equal]
      · simp [agrees, equal]

/-- The first element with a property. -/
theorem find_eraseDups (property : κ → Bool) (keys : List κ) :
    keys.eraseDups.find? property = keys.find? property := by
  induction length : keys.length using Nat.strongRecOn generalizing keys with
  | _ count inductionHypothesis =>
    cases keys with
    | nil => rfl
    | cons key rest =>
      rw [List.eraseDups_cons]
      cases found : property key with
      | true => rw [List.find?_cons_of_pos found, List.find?_cons_of_pos found]
      | false =>
        have shorter : (rest.filter fun other => !other == key).length < count := by
          rw [← length, List.length_cons]
          exact Nat.lt_succ_of_le (List.length_filter_le _ rest)
        rw [List.find?_cons_of_neg (by simp [found]), List.find?_cons_of_neg (by simp [found]),
          inductionHypothesis _ shorter _ rfl, List.find?_filter]
        congr 1
        funext other
        by_cases same : other = key
        · simp [same, found]
        · simp [same]

end Foundation.Distinct
