import MoeUV.Failure
import MoeUV.EndPoint.EmbeddedNul
import MoeUV.Foundation.Trace

/-!
# Strings of the operating system

Eight members ask libuv for a string of unknown length. Each one offers a buffer
of a fixed size first. If libuv answers that the buffer is too small, the answer
says how large it has to be, and the question is asked again with a buffer of
that size. The string ends at its first NUL byte.

Which answers are possible is the contract of the query. A value that does not
fit is answered with the size it needs, or with another error; the query for the
path of the executable instead stores as much as fits and reports success. The
members look at the first answer for the size only, so they take other errors,
and a value that is cut, for the whole value.
-/

namespace MoeUV

open Foundation.Memory Foundation.Trace

def UV_ENOENT : Int := -2
def UV_ERANGE : Int := -34
def UV_ENOBUFS : Int := -105

/-- The exceptions of the members that return strings. -/
inductive GetterFailure where
  | uv (failure : Failure)
  | objectNotFound (description : Text)
deriving DecidableEq

/-- What a query returns, and what it leaves in the buffer and in `*size`. -/
structure UvAnswer where
  code : Int
  buffer : Text
  size : Nat

/-- A libuv function that stores a string, by the number of calls before; the
size it is given is that of the buffer. -/
abbrev StringQuery := Nat → Text → UvAnswer

/-- A member that returns a string; the events are the codes that libuv returned. -/
abbrev StringMember := Traced Int (Except GetterFailure Text)

section Code

/-- `result.resize(size)`. -/
def resizeString (text : Text) (size : Nat) : Text :=
  text.take size ++ List.replicate (size - text.length) 0

/-- `result.resize(std::strlen(result.c_str()))`. -/
def resizeToTerminator (text : Text) : Text := resizeString text (cString text).length

variable (query : StringQuery)

def callQuery (earlier : Nat) (buffer : Text) : Traced Int UvAnswer := do
  let answer := query earlier buffer
  Traced.emit answer.code
  pure answer

/-- The second call, with a buffer of the size that the first one asked for. -/
def askAgain (answer : UvAnswer) : StringMember := do
  let again ← callQuery query 1 (resizeString answer.buffer answer.size)
  if again.code < 0 then pure (.error (.uv (uvThrow again.code)))
  else pure (.ok (resizeToTerminator again.buffer))

/-- The members that differ in the query only. -/
def askString (initial : Nat) : StringMember := do
  let answer ← callQuery query 0 (resizeString [] initial)
  if answer.code = UV_ENOBUFS then askAgain query answer
  else pure (.ok (resizeToTerminator answer.buffer))

/-- `Environment::GetHostName`, which asks `uv_os_gethostname`. -/
def getHostName : StringMember := askString query 256

/-- `Environment::GetProcessExePath`, which asks `uv_exepath`. -/
def getProcessExePath : StringMember := askString query 256

/-- `Environment::GetWorkingDirectory`, which asks `uv_cwd`. -/
def getWorkingDirectory : StringMember := askString query 256

/-- `Environment::GetHomeDirectory`, which asks `uv_os_homedir`. -/
def getHomeDirectory : StringMember := askString query 256

/-- `Environment::GetTempDirectory`, which asks `uv_os_tmpdir`. -/
def getTempDirectory : StringMember := askString query 256

/-- The description of the exception for a name that is not set. -/
def keyNotExists (name : Text) : Text :=
  "Environment key \"".toList.map ascii ++ name ++ "\" not exists".toList.map ascii

/-- `Environment::GetEnvironment`, which asks `uv_os_getenv` for the name. -/
def getEnvironment (name : Text) : StringMember := do
  let answer ← callQuery query 0 (resizeString [] 64)
  if answer.code = UV_ENOBUFS then askAgain query answer
  else if answer.code = UV_ENOENT then pure (.error (.objectNotFound (keyNotExists name)))
  else pure (.ok (resizeToTerminator answer.buffer))

/-- The members of a pipe, which may be closed. -/
def askPipe (closing : Bool) : StringMember :=
  if closing then pure (.error (.uv (.invalidCall "Handle is already disposed")))
  else askString query 256

/-- `Pipe::GetSockName`, which asks `uv_pipe_getsockname`. -/
def getSockName (closing : Bool) : StringMember := askPipe query closing

/-- `Pipe::GetPeerName`, which asks `uv_pipe_getpeername`. -/
def getPeerName (closing : Bool) : StringMember := askPipe query closing

end Code

/-- The members that return a string of the operating system. -/
inductive StringGetter where
  | getHostName
  | getProcessExePath
  | getWorkingDirectory
  | getHomeDirectory
  | getTempDirectory
  | getEnvironment (name : Text)
  | getSockName (closing : Bool)
  | getPeerName (closing : Bool)
deriving DecidableEq

namespace StringGetter

def run (query : StringQuery) : StringGetter → StringMember
  | .getHostName => MoeUV.getHostName query
  | .getProcessExePath => MoeUV.getProcessExePath query
  | .getWorkingDirectory => MoeUV.getWorkingDirectory query
  | .getHomeDirectory => MoeUV.getHomeDirectory query
  | .getTempDirectory => MoeUV.getTempDirectory query
  | .getEnvironment name => MoeUV.getEnvironment query name
  | .getSockName closing => MoeUV.getSockName query closing
  | .getPeerName closing => MoeUV.getPeerName query closing

/-- The query of the member stores what fits of a value that does not. -/
def Cuts : StringGetter → Prop
  | .getProcessExePath => True
  | _ => False

/-- The member of a closed pipe. -/
def Disposed : StringGetter → Prop
  | .getSockName closing | .getPeerName closing => closing = true
  | _ => False

/-- The size of the first buffer. -/
def initial : StringGetter → Nat
  | .getEnvironment _ => 64
  | _ => 256

/-- The errors of the first call that the member looks at. -/
def Handles (code : Int) : StringGetter → Prop
  | .getEnvironment _ => code = UV_ENOBUFS ∨ code = UV_ENOENT
  | _ => code = UV_ENOBUFS

end StringGetter

section Specification

/-- The value, or what fits of it, with its terminator in the buffer. -/
def storeValue (value buffer : Text) : Text :=
  let kept := value.take (buffer.length - 1)
  kept ++ 0 :: buffer.drop (kept.length + 1)

/-- The answers that are possible for a value and a buffer. -/
inductive Answers (value : Text) (cuts : Prop) (buffer : Text) : UvAnswer → Prop
  | stored (room : buffer ≠ []) (fits : value.length < buffer.length ∨ cuts) :
    Answers value cuts buffer
      ⟨0, storeValue value buffer, (value.take (buffer.length - 1)).length⟩
  | tooSmall : Answers value cuts buffer ⟨UV_ENOBUFS, buffer, value.length + 1⟩
  | failed (code : Int) (size : Nat) (negative : code < 0) (other : code ≠ UV_ENOBUFS) :
    Answers value cuts buffer ⟨code, buffer, size⟩

/-- A normal result is the whole value, and an error of the last call of libuv is
reported as an exception. -/
structure WholeOrThrows (value : Text) (run : StringMember) : Prop where
  whole : ∀ result, run.value = .ok result → result = value
  throws : ∀ code, run.events.getLast? = some code → code < 0 →
    ∃ failure, run.value = .error failure

/-- The first answer is not a value that was cut, and not an error that the
member does not look at. -/
def StringGetter.Understands (getter : StringGetter) (value : Text) (query : StringQuery) :
    Prop :=
  let first := query 0 (resizeString [] getter.initial)
  (first.code = 0 → getter.Cuts → value.length < getter.initial) ∧
    (first.code < 0 → getter.Handles first.code)

end Specification

section Strings

/-- A string that is resized has the new length. -/
theorem length_resizeString (text : Text) (size : Nat) :
    (resizeString text size).length = size := by
  rw [resizeString, List.length_append, List.length_take, List.length_replicate]
  omega

/-- A string that ends at its terminator. -/
theorem resizeToTerminator_append {kept : Text} (nulFree : 0 ∉ kept) (rest : Text) :
    resizeToTerminator (kept ++ 0 :: rest) = kept := by
  have before : cString (kept ++ 0 :: rest) = kept := by
    rw [cString, List.takeWhile_append_of_pos]
    · simp
    · intro byte member
      simp only [ne_eq, decide_eq_true_eq]
      rintro rfl
      exact nulFree member
  rw [resizeToTerminator, before, resizeString, List.take_left]
  simp

/-- What a member returns for an answer that stored the value. -/
theorem resizeToTerminator_storeValue {value : Text} (nulFree : 0 ∉ value) (buffer : Text) :
    resizeToTerminator (storeValue value buffer) = value.take (buffer.length - 1) := by
  apply resizeToTerminator_append
  exact fun member => nulFree (List.mem_of_mem_take member)

end Strings

section Members

variable {value : Text} {cuts : Prop} {query : StringQuery}

/-- Success with the whole value is right, -/
theorem whole_of_value {code : Int} (succeeded : 0 ≤ code) {events : List Int} :
    WholeOrThrows value ⟨events ++ [code], .ok value⟩ := by
  constructor
  · intro result returned
    exact (Except.ok.inj returned).symm
  · intro last ends negative
    rw [List.getLast?_concat] at ends
    cases ends
    exact absurd negative (Int.not_lt.mpr succeeded)

/-- an exception is, -/
theorem whole_of_error {events : List Int} {failure : GetterFailure} :
    WholeOrThrows value ⟨events, .error failure⟩ :=
  ⟨nofun, fun _ _ _ => ⟨failure, rfl⟩⟩

/-- and a value behind a negative code is not. -/
theorem not_whole_of_code {code : Int} (negative : code < 0) {events : List Int} {result : Text} :
    ¬ WholeOrThrows value ⟨events ++ [code], .ok result⟩ := by
  intro whole
  obtain ⟨failure, thrown⟩ := whole.throws code List.getLast?_concat negative
  cases thrown

/-- A call reports its code, and the answer goes on. -/
theorem callQuery_bind {α : Type} (earlier : Nat) (buffer : Text) (next : UvAnswer → Traced Int α) :
    callQuery query earlier buffer >>= next =
      ⟨(query earlier buffer).code :: (next (query earlier buffer)).events,
        (next (query earlier buffer)).value⟩ := rfl

/-- The second call has the last word. -/
theorem askAgain_run (answer : UvAnswer) {again : UvAnswer}
    (asked : query 1 (resizeString answer.buffer answer.size) = again) :
    askAgain query answer = ⟨[again.code],
      if again.code < 0 then .error (.uv (uvThrow again.code))
      else .ok (resizeToTerminator again.buffer)⟩ := by
  rw [askAgain, callQuery_bind, asked]
  by_cases negative : again.code < 0
  · rw [if_pos negative, if_pos negative]
    rfl
  · rw [if_neg negative, if_neg negative]
    rfl

/-- The second buffer has room for the value, so the second call returns the
whole value, or its error is thrown. -/
theorem askAgain_whole (nulFree : 0 ∉ value)
    (answers : ∀ earlier buffer, Answers value cuts buffer (query earlier buffer))
    (buffer : Text) :
    WholeOrThrows value (do
      Traced.emit UV_ENOBUFS
      askAgain query ⟨UV_ENOBUFS, buffer, value.length + 1⟩) := by
  have answer := answers 1 (resizeString buffer (value.length + 1))
  have length := length_resizeString buffer (value.length + 1)
  generalize asked : query 1 (resizeString buffer (value.length + 1)) = again at answer
  rw [askAgain_run ⟨UV_ENOBUFS, buffer, value.length + 1⟩ asked]
  generalize resizeString buffer (value.length + 1) = second at answer length
  cases answer with
  | stored room fits =>
    rw [if_neg (Int.lt_irrefl 0), resizeToTerminator_storeValue nulFree, length,
      Nat.add_sub_cancel, List.take_length]
    exact whole_of_value (Int.le_refl 0)
  | tooSmall => exact whole_of_error
  | failed code size negative other =>
    rw [if_pos negative]
    exact whole_of_error

/-- A first call that does not ask for a larger buffer is the last one. -/
theorem askString_run {initial : Nat} {first : UvAnswer}
    (asked : query 0 (resizeString [] initial) = first) :
    askString query initial =
      if first.code = UV_ENOBUFS then do
        Traced.emit UV_ENOBUFS
        askAgain query first
      else ⟨[] ++ [first.code], .ok (resizeToTerminator first.buffer)⟩ := by
  rw [askString, callQuery_bind, asked]
  by_cases small : first.code = UV_ENOBUFS
  · rw [if_pos small, if_pos small, small]
    rfl
  · rw [if_neg small, if_neg small]
    rfl

/-- The first answer decides whether the member is right: it must not be a value
that was cut, nor an error other than a small buffer. -/
theorem askString_whole (nulFree : 0 ∉ value)
    (answers : ∀ earlier buffer, Answers value cuts buffer (query earlier buffer))
    {initial : Nat} (positive : 0 < initial) :
    WholeOrThrows value (askString query initial) ↔
      let first := query 0 (resizeString [] initial)
      (first.code = 0 → cuts → value.length < initial) ∧
        (first.code < 0 → first.code = UV_ENOBUFS) := by
  have answer := answers 0 (resizeString [] initial)
  have length := length_resizeString [] initial
  generalize asked : query 0 (resizeString [] initial) = first at answer
  rw [askString_run asked]
  generalize resizeString [] initial = buffer at answer length
  cases answer with
  | stored room fits =>
    have succeeded : (0 : Int) ≠ UV_ENOBUFS := by decide
    rw [if_neg succeeded, resizeToTerminator_storeValue nulFree, length]
    constructor
    · intro whole
      refine ⟨fun _ _ => ?_, nofun⟩
      have kept := congrArg List.length (whole.whole _ rfl)
      rw [List.length_take] at kept
      omega
    · rintro ⟨cutsNothing, _⟩
      have room : value.length < initial := by
        rcases fits with fits | cut
        · rwa [length] at fits
        · exact cutsNothing rfl cut
      have kept : value.take (initial - 1) = value := List.take_of_length_le (by omega)
      rw [kept]
      exact whole_of_value (Int.le_refl 0)
  | tooSmall =>
    rw [if_pos rfl]
    have refused : UV_ENOBUFS ≠ 0 := by decide
    exact iff_of_true (askAgain_whole nulFree answers buffer)
      ⟨fun success => absurd success refused, fun _ => rfl⟩
  | failed code size negative other =>
    rw [if_neg other]
    exact iff_of_false (not_whole_of_code negative) fun fine => other (fine.2 negative)

/-- A name that is not set is reported; otherwise the environment is asked like
everything else. -/
theorem getEnvironment_run (name : Text) :
    getEnvironment query name =
      if (query 0 (resizeString [] 64)).code = UV_ENOENT then
        ⟨[UV_ENOENT], .error (.objectNotFound (keyNotExists name))⟩
      else askString query 64 := by
  rw [getEnvironment, askString, callQuery_bind, callQuery_bind]
  by_cases unset : (query 0 (resizeString [] 64)).code = UV_ENOENT
  · rw [if_pos unset, unset, if_neg (by decide), if_pos rfl]
    rfl
  · rw [if_neg unset, if_neg unset]

/-- The error for a name that is not set is not mistaken for a value. -/
theorem getEnvironment_whole (nulFree : 0 ∉ value)
    (answers : ∀ earlier buffer, Answers value cuts buffer (query earlier buffer)) (name : Text) :
    WholeOrThrows value (getEnvironment query name) ↔
      let first := query 0 (resizeString [] 64)
      (first.code = 0 → cuts → value.length < 64) ∧
        (first.code < 0 → first.code = UV_ENOBUFS ∨ first.code = UV_ENOENT) := by
  rw [getEnvironment_run]
  by_cases unset : (query 0 (resizeString [] 64)).code = UV_ENOENT
  · have failed : UV_ENOENT ≠ 0 := by decide
    rw [if_pos unset]
    refine iff_of_true whole_of_error ⟨?_, fun _ => Or.inr unset⟩
    rw [unset]
    exact fun success => absurd success failed
  · rw [if_neg unset, askString_whole nulFree answers (by decide)]
    simp only [unset, or_false]

/-- The members of a closed pipe ask nothing. -/
theorem askPipe_whole (nulFree : 0 ∉ value)
    (answers : ∀ earlier buffer, Answers value cuts buffer (query earlier buffer))
    (closing : Bool) :
    WholeOrThrows value (askPipe query closing) ↔
      closing = true ∨
        let first := query 0 (resizeString [] 256)
        (first.code = 0 → cuts → value.length < 256) ∧
          (first.code < 0 → first.code = UV_ENOBUFS) := by
  cases closing with
  | true => exact iff_of_true whole_of_error (Or.inl rfl)
  | false =>
    rw [askPipe, if_neg Bool.false_ne_true, askString_whole nulFree answers (by decide)]
    exact (or_iff_right Bool.false_ne_true).symm

end Members

/-- A member returns the whole value or throws if and only if it is the member of
a closed pipe or understands the first answer. -/
theorem stringGetter_whole_iff (getter : StringGetter) (value : Text) (query : StringQuery)
    (nulFree : 0 ∉ value)
    (answers : ∀ earlier buffer, Answers value getter.Cuts buffer (query earlier buffer)) :
    WholeOrThrows value (getter.run query) ↔
      getter.Disposed ∨ getter.Understands value query := by
  cases getter with
  | getHostName =>
    exact (askString_whole nulFree answers (by decide)).trans (or_iff_right id).symm
  | getProcessExePath =>
    exact (askString_whole nulFree answers (by decide)).trans (or_iff_right id).symm
  | getWorkingDirectory =>
    exact (askString_whole nulFree answers (by decide)).trans (or_iff_right id).symm
  | getHomeDirectory =>
    exact (askString_whole nulFree answers (by decide)).trans (or_iff_right id).symm
  | getTempDirectory =>
    exact (askString_whole nulFree answers (by decide)).trans (or_iff_right id).symm
  | getEnvironment name =>
    exact (getEnvironment_whole nulFree answers name).trans (or_iff_right id).symm
  | getSockName closing => exact askPipe_whole nulFree answers closing
  | getPeerName closing => exact askPipe_whole nulFree answers closing

section Vendored

variable (value : Text)

/-- The part of a query that the vendored functions share: a value that does not
fit is answered as the function does it. -/
def answerWith (unfit : Text → UvAnswer) : StringQuery := fun _ buffer =>
  if buffer.length = 0 then ⟨UV_EINVAL, buffer, 0⟩
  else if value.length < buffer.length then ⟨0, storeValue value buffer, value.length⟩
  else unfit buffer

/-- `uv_os_getenv` of a name with this value. -/
def uvOsGetenv : StringQuery :=
  answerWith value fun buffer => ⟨UV_ENOBUFS, buffer, value.length + 1⟩

/-- `uv_cwd` in a directory with this path. -/
def uvCwd : StringQuery := answerWith value fun buffer => ⟨UV_ERANGE, buffer, buffer.length⟩

/-- `uv_exepath` of an executable with this path. -/
def uvExepath : StringQuery :=
  answerWith value fun buffer => ⟨0, storeValue value buffer, buffer.length - 1⟩

/-- A function of libuv that fills what fits answers as documented. -/
theorem answerWith_answers {unfit : Text → UvAnswer} {cuts : Prop}
    (fits : ∀ buffer, buffer ≠ [] → buffer.length ≤ value.length →
      Answers value cuts buffer (unfit buffer))
    (earlier : Nat) (buffer : Text) :
    Answers value cuts buffer (answerWith value unfit earlier buffer) := by
  unfold answerWith
  by_cases empty : buffer.length = 0
  · rw [if_pos empty]
    exact .failed UV_EINVAL 0 (by decide) (by decide)
  · rw [if_neg empty]
    have room : buffer ≠ [] := fun nothing => empty (congrArg List.length nothing)
    by_cases inside : value.length < buffer.length
    · have kept : (value.take (buffer.length - 1)).length = value.length := by
        rw [List.length_take]
        omega
      rw [if_pos inside]
      have stored : Answers value cuts buffer _ := .stored room (Or.inl inside)
      rwa [kept] at stored
    · rw [if_neg inside]
      exact fits buffer room (Nat.le_of_not_lt inside)

/-- `uv_os_getenv` does so without ever cutting the value, -/
theorem uvOsGetenv_answers (earlier : Nat) (buffer : Text) :
    Answers value False buffer (uvOsGetenv value earlier buffer) := by
  apply answerWith_answers value
  exact fun buffer _ _ => .tooSmall

/-- so does `uv_cwd`, -/
theorem uvCwd_answers (earlier : Nat) (buffer : Text) :
    Answers value False buffer (uvCwd value earlier buffer) := by
  apply answerWith_answers value
  exact fun buffer _ _ => .failed UV_ERANGE buffer.length (by decide) (by decide)

/-- and `uv_exepath` cuts what does not fit. -/
theorem uvExepath_answers (earlier : Nat) (buffer : Text) :
    Answers value True buffer (uvExepath value earlier buffer) := by
  apply answerWith_answers value
  intro buffer room long
  have kept : (value.take (buffer.length - 1)).length = buffer.length - 1 := by
    rw [List.length_take]
    omega
  rw [← kept]
  exact .stored room (Or.inr trivial)

variable {value}

/-- The path of the working directory is lost as soon as it does not fit. -/
theorem getWorkingDirectory_uvCwd (nulFree : 0 ∉ value) :
    WholeOrThrows value (getWorkingDirectory (uvCwd value)) ↔ value.length < 256 := by
  rw [getWorkingDirectory, askString_whole nulFree (uvCwd_answers value) (by decide), uvCwd,
    answerWith, length_resizeString, if_neg (by decide)]
  by_cases fits : value.length < 256
  · rw [if_pos fits]
    exact iff_of_true ⟨fun _ => False.elim, fun negative => absurd negative (Int.lt_irrefl 0)⟩ fits
  · rw [if_neg fits]
    exact iff_of_false (fun handled => absurd (handled.2 (by decide)) (by decide)) fits

/-- The path of the executable is cut as soon as it does not fit. -/
theorem getProcessExePath_uvExepath (nulFree : 0 ∉ value) :
    WholeOrThrows value (getProcessExePath (uvExepath value)) ↔ value.length < 256 := by
  rw [getProcessExePath, askString_whole nulFree (uvExepath_answers value) (by decide), uvExepath,
    answerWith, length_resizeString, if_neg (by decide)]
  by_cases fits : value.length < 256
  · rw [if_pos fits]
    exact iff_of_true ⟨fun _ _ => fits, fun negative => absurd negative (Int.lt_irrefl 0)⟩ fits
  · rw [if_neg fits]
    exact iff_of_false (fun whole => fits (whole.1 rfl trivial)) fits

end Vendored

section Examples

/-- A value of 64 bytes does not fit at first and is returned by the second call. -/
theorem getEnvironment_boundary :
    WholeOrThrows (List.replicate 64 (ascii 'x'))
      ((StringGetter.getEnvironment ("PATH".toList.map ascii)).run
        (uvOsGetenv (List.replicate 64 (ascii 'x')))) := by
  refine (stringGetter_whole_iff _ _ _ ?_ (uvOsGetenv_answers _)).mpr (Or.inr ⟨?_, ?_⟩)
  · exact fun nul => absurd (List.eq_of_mem_replicate nul) (by decide)
  · exact fun _ cut => cut.elim
  · exact fun _ => Or.inl rfl

/-- The path of a working directory of 256 bytes is returned as if it were empty. -/
theorem getWorkingDirectory_lost :
    0 ∉ List.replicate 256 (ascii 'x') ∧
      (∀ earlier buffer, Answers (List.replicate 256 (ascii 'x'))
        StringGetter.getWorkingDirectory.Cuts buffer
        (uvCwd (List.replicate 256 (ascii 'x')) earlier buffer)) ∧
      ¬ WholeOrThrows (List.replicate 256 (ascii 'x'))
        (StringGetter.getWorkingDirectory.run (uvCwd (List.replicate 256 (ascii 'x')))) := by
  have nulFree : 0 ∉ List.replicate 256 (ascii 'x') :=
    fun nul => absurd (List.eq_of_mem_replicate nul) (by decide)
  refine ⟨nulFree, uvCwd_answers _, ?_⟩
  intro whole
  have fits := (getWorkingDirectory_uvCwd nulFree).mp whole
  rw [List.length_replicate] at fits
  exact Nat.lt_irrefl 256 fits

end Examples

end MoeUV
