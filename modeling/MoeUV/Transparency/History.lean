import MoeUV.Foundation.Refinement
import MoeUV.Transparency.Classes

/-!
# Histories of a wrapper

A history follows one handle through the wrappers that own it one after the other. The
program calls the current wrapper, libuv calls back for the handle, and between two such
steps the wrapper may be moved to another address, into new memory or into a wrapper
that was moved from before. Those that were moved from stay around; the program may go
on calling them, and may destroy them.

A callback makes calls on the current wrapper. The return codes of libuv are taken from
an unknown function of everything that it was asked for on the way.
-/

namespace MoeUV.Transparency

open Foundation.Execution

variable {Callback : Type}

/-- What the program gets to see, and what libuv is asked for. -/
inductive Observation (Callback : Type) where
  | answered (answer : Answer)
  | requested (handle : HandleId) (call : UvCall Callback)
  | invoked (callback : Callback) (arguments : List Argument)
deriving DecidableEq

/-- A call on a wrapper: of its class, or of `AsyncHandle`. -/
inductive WrapperCall (wrapperClass : WrapperClass Callback) where
  | own (call : wrapperClass.Call)
  | close
  | isClosing
  | isClosed
  | ref
  | unref

structure History (wrapperClass : WrapperClass Callback) where
  heap : Heap
  members : Pointer → wrapperClass.Members
  /-- The handle that is followed, and the wrapper that owns it. -/
  handle : HandleId
  current : Pointer
  /-- The wrappers that the handle was moved out of, as long as they are alive. -/
  left : List Pointer
  log : List (Observation Callback)

variable {wrapperClass : WrapperClass Callback}

inductive HistoryStep (wrapperClass : WrapperClass Callback) where
  | call (call : WrapperCall wrapperClass)
  /-- The callbacks that the handler calls make these calls. -/
  | event (event : wrapperClass.Event) (scripts : List (List (WrapperCall wrapperClass)))
  | closed
  | moveConstruct (self : Pointer)
  | moveAssign (self : Pointer)
  /-- A call on a wrapper that was moved from, and its destruction. -/
  | aside (self : Pointer) (call : WrapperCall wrapperClass)
  | discard (self : Pointer)

/-- The steps of the history without moves. -/
def HistoryStep.visible : HistoryStep wrapperClass → Bool
  | .call _ | .event _ _ | .closed => true
  | .moveConstruct _ | .moveAssign _ | .aside _ _ | .discard _ => false

namespace History

variable (codes : List (Observation Callback) → Int) (history : History wrapperClass)

/-- libuv is asked for something, and answers with a return code. -/
def uv (handle : HandleId) (call : UvCall Callback) : Int × History wrapperClass :=
  let log := history.log ++ [.requested handle call]
  (codes log, { history with log := log })

/-- What a method does on a handle that is not closing. -/
def work (handle : HandleId) : Work Callback → Answer × History wrapperClass
  | .skip answer => (answer, history)
  | .uv call answer =>
    let (code, history) := history.uv codes handle call
    (answer code, history)

def perform (self : Pointer) :
    WrapperCall wrapperClass → Except Fault (Answer × History wrapperClass)
  | .own call =>
    match wrapperClass.method call (history.members self) with
    | .assign members => pure (.nothing, { history with
        members := Function.update history.members self members })
    | .ask closing work => do
      let wrapper ← history.heap.wrapper self
      if ← history.heap.isClosing wrapper then pure (closing, history)
      else
        match wrapper.handle with
        | none => throw .nullHandle
        | some handle => pure (history.work codes handle work)
  | .close => do
    let (result, heap) ← history.heap.close self
    pure (.boolean result, { history with heap := heap })
  | .isClosing => do
    let wrapper ← history.heap.wrapper self
    pure (.boolean (← history.heap.isClosing wrapper), history)
  | .isClosed => do
    let wrapper ← history.heap.wrapper self
    pure (.boolean wrapper.handleClosed, history)
  | .ref => do
    let heap ← history.heap.ref self
    pure (.nothing, { history with heap := heap })
  | .unref => do
    let heap ← history.heap.unref self
    pure (.nothing, { history with heap := heap })

/-- A call whose result the program looks at. -/
def call (self : Pointer) (call : WrapperCall wrapperClass) :
    Except Fault (History wrapperClass) := do
  let (answer, history) ← history.perform codes self call
  pure { history with log := history.log ++ [.answered answer] }

/-- The calls of a callback. -/
def script (self : Pointer) :
    List (WrapperCall wrapperClass) → History wrapperClass → Except Fault (History wrapperClass)
  | [], history => pure history
  | call :: rest, history => do
    let history ← history.call codes self call
    script self rest history

/-- A handler goes on as long as the wrapper owns the handle. -/
def handler (self : Pointer) : List (Act wrapperClass.Members Callback) →
    List (List (WrapperCall wrapperClass)) → History wrapperClass →
    Except Fault (History wrapperClass)
  | [], _, history => pure history
  | act :: rest, scripts, history => do
    if (← history.heap.getSelf history.handle) ≠ some self then pure history
    else
      match act with
      | .call callback arguments =>
        match callback (history.members self) with
        | none => handler self rest scripts history
        | some callback => do
          let history := { history with log := history.log ++ [.invoked callback arguments] }
          let history ← script codes self (scripts.headD []) history
          handler self rest scripts.tail history
      | .close => do
        let (_, heap) ← history.heap.close self
        handler self rest scripts { history with heap := heap }

/-- The members of two wrappers after a move. -/
def carry (self org : Pointer) (moved : wrapperClass.Members × wrapperClass.Members) :
    Pointer → wrapperClass.Members :=
  Function.update (Function.update history.members self moved.1) org moved.2

def run : HistoryStep wrapperClass → Except Fault (History wrapperClass)
  | .call call => history.call codes history.current call
  | .event event scripts => do
    match ← history.heap.getSelf history.handle with
    | none => pure history
    | some self => handler codes self (wrapperClass.handler event) scripts history
  | .closed => do
    let heap ← history.heap.deliverClose history.handle
    pure { history with heap := heap }
  | .moveConstruct self => do
    let heap ← history.heap.moveConstruct self history.current
    pure { history with
      heap := heap
      members := history.carry self history.current
        (wrapperClass.moveConstruct (history.members history.current))
      current := self
      left := history.current :: history.left }
  | .moveAssign self => do
    let heap ← history.heap.moveAssign self history.current
    pure { history with
      heap := heap
      members := history.carry self history.current
        (wrapperClass.moveAssign (history.members self) (history.members history.current))
      current := self
      left := history.current :: history.left.filter (· ≠ self) }
  | .aside self call => do
    let (_, history) ← history.perform codes self call
    pure history
  | .discard self => do
    let heap ← history.heap.destroy self
    pure { history with heap := heap, left := history.left.filter (· ≠ self) }

/-- libuv calls back as long as the close of the handle has not been delivered; a move
goes to memory without a wrapper or to one that was moved from. -/
def Permits : HistoryStep wrapperClass → Prop
  | .call _ => True
  | .event _ _ => history.heap.serves history.handle = true
  | .closed => history.handle ∈ history.heap.closingHandles
  | .moveConstruct self => history.heap.wrappers self = none
  | .moveAssign self | .aside self _ | .discard self => self ∈ history.left

/-- A history begins with a wrapper that owns a handle. -/
structure Begun (history : History wrapperClass) : Prop where
  coherent : Coherent history.heap
  holds : history.heap.held history.current = some history.handle
  alone : history.left = []

/-- A class builds a wrapper around a handle it has initialised. -/
def create (wrapperClass : WrapperClass Callback) (heap : Heap) (self : Pointer) (active : Bool)
    (members : wrapperClass.Members) : Except Fault (History wrapperClass) := do
  let created ← heap.construct self active
  pure ⟨created, fun _ => members, heap.fresh, self, [], []⟩

end History

def historySystem (codes : List (Observation Callback) → Int)
    (wrapperClass : WrapperClass Callback) :
    System (History wrapperClass) (HistoryStep wrapperClass) Fault where
  enabled history step := history.Permits step
  step history step := history.run codes step

instance (codes : List (Observation Callback) → Int) (wrapperClass : WrapperClass Callback)
    (history : History wrapperClass) : (step : HistoryStep wrapperClass) →
      Decidable ((historySystem codes wrapperClass).enabled history step)
  | .call _ => inferInstanceAs (Decidable True)
  | .event _ _ => inferInstanceAs (Decidable (history.heap.serves history.handle = true))
  | .closed => inferInstanceAs (Decidable (history.handle ∈ history.heap.closingHandles))
  | .moveConstruct self => inferInstanceAs (Decidable (history.heap.wrappers self = none))
  | .moveAssign self | .aside self _ | .discard self =>
    inferInstanceAs (Decidable (self ∈ history.left))

/-- The wrapper and the handle as one object, wherever the wrapper is. -/
structure Plain (wrapperClass : WrapperClass Callback) where
  phase : Phase
  /-- Whether the handle keeps the loop alive; one that is closed does not. -/
  referenced : Bool
  members : wrapperClass.Members
  log : List (Observation Callback)

namespace Plain

variable (codes : List (Observation Callback) → Int) (handle : HandleId)
  (plain : Plain wrapperClass)

def answer (answer : Answer) : Plain wrapperClass :=
  { plain with log := plain.log ++ [.answered answer] }

def setReferenced (referenced : Bool) : Plain wrapperClass :=
  if plain.phase = .closed then plain else { plain with referenced := referenced }

def call : WrapperCall wrapperClass → Plain wrapperClass
  | .own call =>
    match wrapperClass.method call plain.members with
    | .assign members => { plain with members := members }.answer .nothing
    | .ask closing work =>
      if plain.phase ≠ .opened then plain.answer closing
      else
        match work with
        | .skip answer => plain.answer answer
        | .uv call answer =>
          let log := plain.log ++ [.requested handle call]
          { plain with log := log }.answer (answer (codes log))
  | .close =>
    if plain.phase = .opened then { plain with phase := .closing }.answer (.boolean true)
    else plain.answer (.boolean false)
  | .isClosing => plain.answer (.boolean (decide (plain.phase ≠ .opened)))
  | .isClosed => plain.answer (.boolean (decide (plain.phase = .closed)))
  | .ref => (plain.setReferenced true).answer .nothing
  | .unref => (plain.setReferenced false).answer .nothing

def handler : List (Act wrapperClass.Members Callback) →
    List (List (WrapperCall wrapperClass)) → Plain wrapperClass → Plain wrapperClass
  | [], _, plain => plain
  | .call callback arguments :: rest, scripts, plain =>
    match callback plain.members with
    | none => handler rest scripts plain
    | some callback =>
      let plain := { plain with log := plain.log ++ [.invoked callback arguments] }
      handler rest scripts.tail ((scripts.headD []).foldl (call codes handle) plain)
  | .close :: rest, scripts, plain =>
    handler rest scripts
      { plain with phase := if plain.phase = .closed then .closed else .closing }

def advance : HistoryStep wrapperClass → Plain wrapperClass
  | .call call => plain.call codes handle call
  | .event event scripts => handler codes handle (wrapperClass.handler event) scripts plain
  | .closed => { plain with phase := .closed, referenced := false }
  | .moveConstruct _ | .moveAssign _ | .aside _ _ | .discard _ => plain

end Plain

end MoeUV.Transparency
