import Mathlib.Data.List.Flatten
import Mathlib.Data.List.Range
import Mathlib.Tactic.Common

/-!
# Chunks of numbered messages

Messages are sent in chunks, each of which names its message by a number. When the numbers
never decrease, what was sent is the messages one behind the other, as far as each was
sent.
-/

namespace Foundation.Chunks

universe u
variable {α : Type u}

/-- Everything that was sent. -/
def all (chunks : List (Nat × List α)) : List α := chunks.flatMap Prod.snd

/-- What was sent of one message. -/
def ofMessage (message : Nat) (chunks : List (Nat × List α)) : List α :=
  all (chunks.filter fun chunk => chunk.1 = message)

/-- No chunks hold nothing. -/
@[simp] theorem all_nil : all ([] : List (Nat × List α)) = [] := rfl

/-- The items of two runs of chunks follow each other. -/
@[simp] theorem all_append (first second : List (Nat × List α)) :
    all (first ++ second) = all first ++ all second := List.flatMap_append

/-- So do the items of one message. -/
@[simp] theorem ofMessage_append (message : Nat) (first second : List (Nat × List α)) :
    ofMessage message (first ++ second) = ofMessage message first ++ ofMessage message second := by
  simp [ofMessage]

/-- A single chunk counts for its own message only. -/
@[simp] theorem ofMessage_singleton (message number : Nat) (items : List α) :
    ofMessage message [(number, items)] = if number = message then items else [] := by
  by_cases same : number = message <;> simp [ofMessage, all, same]

/-- Nothing was sent of a message that no chunk names. -/
theorem ofMessage_eq_nil {message : Nat} {chunks : List (Nat × List α)}
    (absent : ∀ chunk ∈ chunks, chunk.1 ≠ message) : ofMessage message chunks = [] := by
  have none : (chunks.filter fun chunk => chunk.1 = message) = [] := by
    refine List.filter_eq_nil_iff.mpr ?_
    intro chunk member
    simpa using absent chunk member
  rw [ofMessage, none, all_nil]

/-- The chunks below a bound precede those that name it. The induction is on the chunks: as long
as they are below the bound both filters keep them, and behind that the first one keeps none. -/
theorem filter_lt_succ {chunks : List (Nat × List α)}
    (sorted : (chunks.map Prod.fst).Pairwise (· ≤ ·)) (bound : Nat) :
    (chunks.filter fun chunk => chunk.1 < bound + 1) =
      (chunks.filter fun chunk => chunk.1 < bound) ++
        chunks.filter fun chunk => chunk.1 = bound := by
  induction chunks with
  | nil => rfl
  | cons chunk rest inductionHypothesis =>
    obtain ⟨least, later⟩ := List.pairwise_cons.mp sorted
    rcases Nat.lt_or_ge chunk.1 bound with below | reached
    · rw [List.filter_cons_of_pos (by simp only [decide_eq_true_eq]; omega),
        List.filter_cons_of_pos (by simp only [decide_eq_true_eq]; omega),
        List.filter_cons_of_neg (by simp only [decide_eq_true_eq]; omega),
        inductionHypothesis later, List.cons_append]
    · have none : (rest.filter fun other => other.1 < bound) = [] := by
        refine List.filter_eq_nil_iff.mpr ?_
        intro other member
        have order := least other.1 (List.mem_map_of_mem member)
        simp only [decide_eq_true_eq]
        omega
      have here : (rest.filter fun other => other.1 < bound + 1) =
          rest.filter fun other => other.1 = bound := by
        rw [inductionHypothesis later, none, List.nil_append]
      -- The first chunk is not below the bound, and neither is what follows it.
      rw [List.filter_cons_of_neg (l := rest) (p := fun chunk => decide (chunk.1 < bound))
        (by simp only [decide_eq_true_eq]; omega), none, List.nil_append]
      by_cases same : chunk.1 = bound
      · rw [List.filter_cons_of_pos (by simp only [decide_eq_true_eq]; omega),
          List.filter_cons_of_pos (by simp only [decide_eq_true_eq]; omega), here]
      · rw [List.filter_cons_of_neg (by simp only [decide_eq_true_eq]; omega),
          List.filter_cons_of_neg (by simp only [decide_eq_true_eq]; omega), here]

/-- What was sent is the messages in the order of their numbers. -/
theorem all_eq_flatMap {chunks : List (Nat × List α)}
    (sorted : (chunks.map Prod.fst).Pairwise (· ≤ ·)) {count : Nat}
    (numbered : ∀ chunk ∈ chunks, chunk.1 < count) :
    all chunks = (List.range count).flatMap fun message => ofMessage message chunks := by
  have upTo (bound : Nat) : all (chunks.filter fun chunk => chunk.1 < bound) =
      (List.range bound).flatMap fun message => ofMessage message chunks := by
    induction bound with
    | zero => simp
    | succ bound inductionHypothesis =>
      rw [filter_lt_succ sorted, all_append, inductionHypothesis, List.range_succ,
        List.flatMap_append, List.flatMap_singleton, ofMessage]
  have whole : (chunks.filter fun chunk => chunk.1 < count) = chunks := by
    refine List.filter_eq_self.mpr ?_
    intro chunk member
    simpa using numbered chunk member
  rw [← upTo count, whole]

end Foundation.Chunks
