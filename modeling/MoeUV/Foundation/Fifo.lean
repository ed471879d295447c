import Mathlib.Data.List.Flatten
import Mathlib.Tactic.Common

/-!
# Queues of segments

A queue holds segments of items, the oldest first, and is emptied item by item
from the front, so the oldest segment may be left in part. Nothing is lost,
added or reordered on the way.
-/

namespace Foundation.Fifo

universe u
variable {α : Type u}

/-- Take up to the given number of items off the front: what was taken, and the
segments that are left. -/
def drain : Nat → List (List α) → List α × List (List α)
  | _, [] => ([], [])
  | count, segment :: rest =>
    if count < segment.length then (segment.take count, segment.drop count :: rest)
    else
      let (taken, left) := drain (count - segment.length) rest
      (segment ++ taken, left)

/-- What is taken and what is left make up the queue. -/
theorem drain_conserves (count : Nat) (queue : List (List α)) :
    (drain count queue).1 ++ (drain count queue).2.flatten = queue.flatten := by
  induction queue generalizing count with
  | nil => rfl
  | cons segment rest inductionHypothesis =>
    by_cases partly : count < segment.length
    · simp only [drain, if_pos partly, List.flatten_cons, ← List.append_assoc,
        List.take_append_drop]
    · simp only [drain, if_neg partly, List.flatten_cons, List.append_assoc, inductionHypothesis]

end Foundation.Fifo
