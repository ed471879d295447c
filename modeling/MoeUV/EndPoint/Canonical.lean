import MoeUV.EndPoint.Format
import MoeUV.EndPoint.Ipv6Accepted
import MoeUV.Foundation.Runs

/-!
# The canonical IPv6 text

The shortest hexadecimal numerals of the pieces stand between single colons, and
one pair of colons stands for the first of the longest runs of zero pieces, if
one has at least two. The search loop of `GetAddress` finds that run. The
serialization loop then writes the groups before it, one or two colons, and the
groups behind it: each group before the last index is followed by a colon, so
that only a run at the very beginning needs both.

A canonical text is a text of the grammar that denotes the pieces it was written
for, so `ParseIpv6` recovers them.
-/

namespace MoeUV

open Foundation.Memory Foundation.Runs

section Form

/-- The shortest lower-case hexadecimal numeral of a piece. -/
def hexText (piece : BitVec 16) : Text := numeral 16 piece.toNat

/-- Numerals between single colons. -/
def groupsText (pieces : List (BitVec 16)) : Text :=
  [ascii ':'].intercalate (pieces.map hexText)

/-- The text of two colons. -/
def doubleColon : Text := [ascii ':', ascii ':']

/-- The piece at an index is zero. -/
def ZeroPiece (pieces : List (BitVec 16)) (index : Nat) : Prop := pieces[index]? = some 0

/-- A run of zero pieces that no other zero run precedes in the choice: it is
maximal, no zero run is longer, and none of the same length starts earlier. -/
structure ChosenRun (pieces : List (BitVec 16)) (start length : Nat) : Prop where
  several : 2 ≤ length
  zeros : Run (ZeroPiece pieces) pieces.length start length
  notAfter : ¬ ZeroPiece pieces (start + length)
  notBefore : 0 < start → ¬ ZeroPiece pieces (start - 1)
  longest : ∀ other size, Run (ZeroPiece pieces) pieces.length other size → size ≤ length
  first : ∀ other, Run (ZeroPiece pieces) pieces.length other length → start ≤ other

/-- The canonical text of some pieces: without a run of two zeros all of them
are written, otherwise two colons stand for the chosen run. -/
inductive CanonicalText (pieces : List (BitVec 16)) : Text → Prop where
  | plain (short : ∀ start length, Run (ZeroPiece pieces) pieces.length start length →
      length < 2) : CanonicalText pieces (groupsText pieces)
  | compressed {start length : Nat} (run : ChosenRun pieces start length) :
      CanonicalText pieces (groupsText (pieces.take start) ++ doubleColon ++
        groupsText (pieces.drop (start + length)))

end Form

section Search

/-- The search between two pieces: the open run has begun at `edge`, the best run
before it is known. -/
structure Scanned (marked : Nat → Prop) (edge : Nat) (run : ZeroRun) : Prop where
  opened : Run marked (edge + run.count) edge run.count
  bounded : edge = 0 ∨ ¬ marked (edge - 1)
  cur : run.cur = if run.count = 0 then none else some edge
  best : Best marked edge run.longest run.compress

variable {marked : Nat → Prop} {edge : Nat} {run : ZeroRun}

/-- The search examines the next piece. A zero piece extends the open run. Another piece closes
it, which may make it the best run so far, and a new run opens behind the piece. -/
theorem Scanned.examine (scanned : Scanned marked edge run) {piece : BitVec 16}
    (zero : marked (edge + run.count) ↔ piece = 0) :
    ∃ next, next + (run.examine (edge + run.count) piece).count = edge + run.count + 1 ∧
      Scanned marked next (run.examine (edge + run.count) piece) := by
  by_cases found : piece = 0
  · -- the open run grows by the piece
    refine ⟨edge, ?_⟩
    rw [ZeroRun.examine, if_pos found]
    refine ⟨rfl, ⟨Nat.le_refl _, ?_⟩, scanned.bounded, ?_, scanned.best⟩
    · intro offset inside
      by_cases last : offset = run.count
      · rw [last]
        exact zero.mpr found
      · have earlier : offset < run.count + 1 := inside
        exact scanned.opened.all offset (by omega)
    · rw [scanned.cur]
      by_cases none : run.count = 0
      · simp [none]
      · simp [none]
  · -- the open run ends before the piece
    have unmarked : ¬ marked (edge + run.count) := fun here => found (zero.mp here)
    have closed := scanned.best.close scanned.opened scanned.bounded
    refine ⟨edge + run.count + 1, ?_⟩
    have opened : Run marked (edge + run.count + 1 + 0) (edge + run.count + 1) 0 :=
      ⟨Nat.le_refl _, fun offset inside => absurd inside (Nat.not_lt_zero offset)⟩
    have bounded : edge + run.count + 1 = 0 ∨ ¬ marked (edge + run.count + 1 - 1) :=
      Or.inr unmarked
    rw [ZeroRun.examine, if_neg found]
    by_cases wins : run.count > run.longest ∧ run.count > 1
    · have many : run.count ≠ 0 := by omega
      rw [if_pos wins] at closed ⊢
      refine ⟨rfl, opened, bounded, rfl, ?_⟩
      simp only [scanned.cur, if_neg many]
      exact closed.skip unmarked
    · rw [if_neg wins] at closed ⊢
      exact ⟨rfl, opened, bounded, rfl, closed.skip unmarked⟩

/-- The search goes through the pieces that are left. -/
theorem Scanned.foldl (done rest : List (BitVec 16)) (edge : Nat) (run : ZeroRun)
    (place : edge + run.count = done.length)
    (scanned : Scanned (ZeroPiece (done ++ rest)) edge run) :
    ∃ last final,
      (rest.zipIdx done.length).foldl (fun run entry => run.examine entry.2 entry.1) run = final ∧
      last + final.count = (done ++ rest).length ∧
      Scanned (ZeroPiece (done ++ rest)) last final := by
  induction rest generalizing done edge run with
  | nil => exact ⟨edge, run, rfl, by rw [place, List.append_nil], scanned⟩
  | cons piece rest inductionHypothesis =>
    have here : ZeroPiece (done ++ piece :: rest) (edge + run.count) ↔ piece = 0 := by
      rw [ZeroPiece, place]
      simp
    obtain ⟨next, further, examined⟩ := scanned.examine here
    rw [place] at further examined
    have whole : done ++ piece :: rest = done ++ [piece] ++ rest := by simp
    rw [whole] at examined ⊢
    have counted : done.length + 1 = (done ++ [piece]).length := by simp
    rw [counted] at further
    rw [List.zipIdx_cons, List.foldl_cons, counted]
    exact inductionHypothesis (done ++ [piece]) next _ further examined

/-- The search finds the first of the longest runs. -/
theorem compressedRun_best (v6 : Ipv6AddressType) :
    ∃ longest, Best (ZeroPiece v6.toList) 8 longest (compressedRun v6) := by
  have initial : Scanned (ZeroPiece ([] ++ v6.toList)) 0 (ZeroRun.mk none 0 0 none) :=
    ⟨⟨Nat.le_refl 0, fun offset inside => absurd inside (Nat.not_lt_zero offset)⟩, Or.inl rfl, rfl,
      best_zero⟩
  obtain ⟨edge, run, folded, place, scanned⟩ := Scanned.foldl [] v6.toList 0 _ rfl initial
  rw [List.nil_append, Vector.length_toList] at place
  have search := foldl_finRange v6 (fun run entry => ZeroRun.examine run entry.2 entry.1)
    (ZeroRun.mk none 0 0 none)
  rw [List.length_nil] at folded
  rw [folded] at search
  have closed := scanned.best.close scanned.opened scanned.bounded
  rw [place] at closed
  rw [compressedRun]
  simp only [search]
  by_cases wins : run.count > run.longest ∧ run.count > 1
  · have many : run.count ≠ 0 := by omega
    rw [if_pos wins] at closed ⊢
    rw [scanned.cur, if_neg many]
    exact ⟨run.count, closed⟩
  · rw [if_neg wins] at closed ⊢
    exact ⟨run.longest, closed⟩

/-- The run that is compressed is the chosen one. -/
theorem compressedRun_some {v6 : Ipv6AddressType} {start : Nat}
    (found : compressedRun v6 = some start) : ∃ length, ChosenRun v6.toList start length := by
  obtain ⟨longest, best⟩ := compressedRun_best v6
  rw [found] at best
  obtain ⟨after, before⟩ := best.maximal
  obtain ⟨long, zeros, first⟩ := best
  have eight : v6.toList.length = 8 := Vector.length_toList
  refine ⟨longest, long, by rwa [eight], ?_, before, ?_, ?_⟩
  · intro zero
    have inside := zeros.inside
    by_cases room : start + longest < 8
    · exact after room zero
    · rw [ZeroPiece, List.getElem?_eq_none (by omega)] at zero
      cases zero
  · intro other size run
    rw [eight] at run
    have bound := first other size run
    omega
  · intro other run
    rw [eight] at run
    have bound := first other longest run
    omega

/-- Without a run to compress no two neighbours are zero. -/
theorem compressedRun_none {v6 : Ipv6AddressType} (nothing : compressedRun v6 = none) :
    ∀ start length, Run (ZeroPiece v6.toList) v6.toList.length start length → length < 2 := by
  obtain ⟨longest, best⟩ := compressedRun_best v6
  rw [nothing] at best
  intro start length run
  rw [Vector.length_toList] at run
  exact Nat.lt_succ_of_le (best.2 start length run)

end Search

section Serialization

variable (core : MoeCore) (compress : Option Nat)

/-- One round of the serialization, for a piece and its index. -/
def formatRound (state : Text × Bool) (entry : BitVec 16 × Nat) : Text × Bool :=
  if state.2 = true ∧ entry.1 = 0 then (state.1, true)
  else if compress = some entry.2 then
    (state.1 ++ if entry.2 = 0 then [ascii ':', ascii ':'] else [ascii ':'], true)
  else
    (if entry.2 < 7 then state.1 ++ core.toHexStringLower entry.1 ++ [ascii ':']
      else state.1 ++ core.toHexStringLower entry.1, false)

/-- The serialization goes through the pieces with their indices. -/
theorem formatIpv6_rounds (v6 : Ipv6AddressType) :
    formatIpv6 core v6 =
      (v6.toList.zipIdx.foldl (formatRound core (compressedRun v6)) ([ascii '['], false)).1 ++
        [ascii ']'] := by
  rw [← foldl_finRange]
  rfl

/-- The missing formatter writes the hexadecimal digits of a piece as the standard asks. -/
theorem toHexStringLower_eq_hexText (piece : BitVec 16) :
    core.toHexStringLower piece = hexText piece :=
  core.toHexStringLower_eq piece

/-- A colon stands between a group and the next. -/
theorem groupsText_cons (piece next : BitVec 16) (rest : List (BitVec 16)) :
    groupsText (piece :: next :: rest) =
      hexText piece ++ ascii ':' :: groupsText (next :: rest) := by
  rw [groupsText, List.map_cons, List.map_cons, List.intercalate_cons_cons, List.append_assoc]
  rfl

/-- A single group stands alone. -/
theorem groupsText_singleton (piece : BitVec 16) : groupsText [piece] = hexText piece :=
  List.intercalate_singleton

/-- Groups that are each followed by a colon. -/
def groupsBefore (pieces : List (BitVec 16)) : Text :=
  pieces.flatMap (fun piece => hexText piece ++ [ascii ':'])

/-- Before a double colon each group is followed by one colon. -/
theorem groupsBefore_cons (piece : BitVec 16) (rest : List (BitVec 16)) :
    groupsBefore (piece :: rest) = hexText piece ++ ascii ':' :: groupsBefore rest := by
  rw [groupsBefore, List.flatMap_cons, List.append_assoc]
  rfl

/-- Before the last group every group is followed by a colon. -/
theorem groupsText_snoc (front : List (BitVec 16)) (piece : BitVec 16) :
    groupsText (front ++ [piece]) = groupsBefore front ++ hexText piece := by
  induction front with
  | nil => exact groupsText_singleton piece
  | cons first rest inductionHypothesis =>
    rw [groupsBefore_cons, List.append_assoc, List.cons_append, List.cons_append,
      ← inductionHypothesis]
    cases rest with
    | nil => exact groupsText_cons first piece []
    | cons second others => exact groupsText_cons first second (others ++ [piece])

/-- Behind some groups one more colon makes the pair. -/
theorem groupsBefore_colon (front : List (BitVec 16)) (some : front ≠ []) :
    groupsBefore front ++ [ascii ':'] = groupsText front ++ doubleColon := by
  obtain ⟨others, last, rfl⟩ := (List.eq_nil_or_concat' front).resolve_left some
  rw [groupsText_snoc, groupsBefore, List.flatMap_append, List.flatMap_singleton]
  simp [groupsBefore, doubleColon]

section Rounds

variable {compress}

/-- A group that is neither skipped nor compressed. -/
theorem formatRound_group {ret : Text} {ignore0 : Bool} {piece : BitVec 16} {n : Nat}
    (written : ignore0 = true → piece ≠ 0) (plain : compress ≠ some n) :
    formatRound core compress (ret, ignore0) (piece, n) =
      (if n < 7 then ret ++ (hexText piece ++ [ascii ':']) else ret ++ hexText piece, false) := by
  have notSkipped : ¬ (ignore0 = true ∧ piece = 0) := fun skipped => written skipped.1 skipped.2
  rw [formatRound, if_neg notSkipped, if_neg plain, toHexStringLower_eq_hexText,
    List.append_assoc]

/-- While nothing is skipped, any piece may be written. -/
theorem formatRound_written {ret : Text} (piece : BitVec 16) {n : Nat}
    (plain : compress ≠ some n) :
    formatRound core compress (ret, false) (piece, n) =
      (if n < 7 then ret ++ (hexText piece ++ [ascii ':']) else ret ++ hexText piece, false) :=
  formatRound_group core (fun skipped => absurd skipped Bool.false_ne_true) plain

/-- The groups before the last index. -/
theorem foldl_formatRound_before (pieces : List (BitVec 16)) (n : Nat) (ret : Text)
    (room : n + pieces.length ≤ 7)
    (plain : ∀ index, n ≤ index → index < n + pieces.length → compress ≠ some index) :
    (pieces.zipIdx n).foldl (formatRound core compress) (ret, false) =
      (ret ++ groupsBefore pieces, false) := by
  induction pieces generalizing n ret with
  | nil => rw [groupsBefore, List.flatMap_nil, List.append_nil]; rfl
  | cons piece rest inductionHypothesis =>
    rw [List.length_cons] at room plain
    have here : compress ≠ some n := plain n (Nat.le_refl n) (by omega)
    have early : n < 7 := by omega
    rw [List.zipIdx_cons, List.foldl_cons, formatRound_written core piece here, if_pos early,
      inductionHypothesis (n + 1) _ (by omega)
        (fun index above below => plain index (by omega) (by omega)),
      groupsBefore_cons, List.append_assoc, List.append_assoc]
    rfl

/-- The groups to the end, the first of which is not skipped. A flag that is still set from the
compressed run has no effect on the first group, since that is no zero. -/
theorem foldl_formatRound_last (pieces : List (BitVec 16)) (n : Nat) (ret : Text) (ignore0 : Bool)
    (total : n + pieces.length = 8)
    (written : ignore0 = true → ∀ piece ∈ pieces.head?, piece ≠ 0)
    (plain : ∀ index, n ≤ index → compress ≠ some index) :
    ((pieces.zipIdx n).foldl (formatRound core compress) (ret, ignore0)).1 =
      ret ++ groupsText pieces := by
  have unskipped : ((pieces.zipIdx n).foldl (formatRound core compress) (ret, ignore0)).1 =
      ((pieces.zipIdx n).foldl (formatRound core compress) (ret, false)).1 := by
    cases pieces with
    | nil => rfl
    | cons piece rest =>
      have first : ignore0 = true → piece ≠ 0 := fun ignored => written ignored piece rfl
      have here : compress ≠ some n := plain n (Nat.le_refl n)
      rw [List.zipIdx_cons, List.foldl_cons, List.foldl_cons, formatRound_group core first here,
        formatRound_written core piece here]
  rw [unskipped]
  rcases List.eq_nil_or_concat' pieces with rfl | ⟨front, last, rfl⟩
  · exact (List.append_nil ret).symm
  · rw [List.length_append, List.length_singleton] at total
    have final : ¬ n + front.length < 7 := by omega
    rw [List.zipIdx_append, List.foldl_append,
      foldl_formatRound_before core front n ret (by omega)
        (fun index above _ => plain index above),
      List.zipIdx_singleton, List.foldl_cons, List.foldl_nil,
      formatRound_written core last (plain _ (Nat.le_add_right n _)), if_neg final,
      groupsText_snoc, List.append_assoc]

/-- The zeros of the compressed run are skipped. -/
theorem foldl_formatRound_zeros (length n : Nat) (ret : Text) :
    ((List.replicate length 0).zipIdx n).foldl (formatRound core compress) (ret, true) =
      (ret, true) := by
  induction length generalizing n with
  | zero => rfl
  | succ length inductionHypothesis =>
    have skipped : formatRound core compress (ret, true) (0, n) = (ret, true) :=
      if_pos ⟨rfl, rfl⟩
    rw [List.replicate_succ, List.zipIdx_cons, List.foldl_cons, skipped, inductionHypothesis]

end Rounds

/-- The text of the pieces before the compressed run, and the colons of the run. -/
theorem foldl_formatRound_run (front : List (BitVec 16)) (length : Nat) (positive : 0 < length)
    (room : front.length ≤ 7) (ret : Text) :
    ((front ++ List.replicate length 0).zipIdx).foldl (formatRound core (some front.length))
        (ret, false) = (ret ++ (groupsText front ++ doubleColon), true) := by
  obtain ⟨more, rfl⟩ := Nat.exists_eq_succ_of_ne_zero (Nat.ne_of_gt positive)
  have plain : ∀ index, 0 ≤ index → index < 0 + front.length → some front.length ≠ some index := by
    intro index _ below same
    have here := Option.some.inj same
    omega
  rw [List.zipIdx_append, List.foldl_append,
    foldl_formatRound_before core front 0 ret (by omega) plain, List.replicate_succ,
    List.zipIdx_cons, List.foldl_cons, Nat.zero_add]
  have begun : formatRound core (some front.length) (ret ++ groupsBefore front, false)
      (0, front.length) = (ret ++ (groupsText front ++ doubleColon), true) := by
    have notSkipped : ¬ (false = true ∧ (0 : BitVec 16) = 0) := fun skipped => nomatch skipped.1
    rw [formatRound, if_neg notSkipped, if_pos rfl]
    cases front with
    | nil => simp [groupsBefore, groupsText, doubleColon]
    | cons piece rest =>
      have notFirst : ¬ (piece :: rest).length = 0 := by simp
      rw [if_neg notFirst, List.append_assoc, groupsBefore_colon _ (List.cons_ne_nil _ _)]
  rw [begun, foldl_formatRound_zeros]

/-- The chosen run splits the pieces. -/
theorem ChosenRun.split {pieces : List (BitVec 16)} {start length : Nat}
    (run : ChosenRun pieces start length) :
    pieces = pieces.take start ++ List.replicate length 0 ++ pieces.drop (start + length) := by
  have inside := run.zeros.inside
  have zeros : (pieces.drop start).take length = List.replicate length 0 := by
    apply List.ext_getElem
    · simp
      omega
    · intro offset listed counted
      rw [List.length_replicate] at counted
      have zero := run.zeros.all offset counted
      rw [ZeroPiece, List.getElem?_eq_some_iff] at zero
      obtain ⟨_, zero⟩ := zero
      simp [zero]
  rw [← zeros, List.append_assoc, ← List.drop_drop, List.take_append_drop, List.take_append_drop]

/-- What `GetAddress` writes between the brackets is the canonical text. Without a run to
compress all eight groups are written. With one, the rounds before it, in it and behind it write
the groups on the left, the two colons and the groups on the right. -/
theorem formatIpv6_canonical (v6 : Ipv6AddressType) :
    ∃ text, formatIpv6 core v6 = ascii '[' :: (text ++ [ascii ']']) ∧
      CanonicalText v6.toList text := by
  have eight : v6.toList.length = 8 := Vector.length_toList
  rw [formatIpv6_rounds]
  cases chosen : compressedRun v6 with
  | none =>
    refine ⟨groupsText v6.toList, ?_, .plain (compressedRun_none chosen)⟩
    rw [foldl_formatRound_last core v6.toList 0 _ false (by omega)
      (fun impossible => absurd impossible Bool.false_ne_true)
      (fun index _ same => absurd same (Option.some_ne_none index).symm)]
    rfl
  | some start =>
    obtain ⟨length, run⟩ := compressedRun_some chosen
    refine ⟨_, ?_, .compressed run⟩
    have inside := run.zeros.inside
    have several := run.several
    have counted : (v6.toList.take start).length = start := by
      rw [List.length_take]
      omega
    have written := foldl_formatRound_run core (v6.toList.take start) length (by omega) (by omega)
      [ascii '[']
    have behind := @foldl_formatRound_last core (some start)
      (v6.toList.drop (start + length)) (start + length)
      ([ascii '['] ++ (groupsText (v6.toList.take start) ++ doubleColon)) true
      (by rw [List.length_drop]; omega)
      (by
        intro _ piece head zero
        rw [zero, List.head?_drop] at head
        exact run.notAfter head)
      (by
        intro index above same
        have apart := Option.some.inj same
        omega)
    rw [counted] at written
    have whole := congrArg List.zipIdx run.split
    rw [List.zipIdx_append] at whole
    rw [whole, List.foldl_append, written]
    have place : 0 + (v6.toList.take start ++ List.replicate length 0).length =
        start + length := by
      rw [List.length_append, counted, List.length_replicate, Nat.zero_add]
    rw [place, behind]
    simp

end Serialization

end MoeUV
