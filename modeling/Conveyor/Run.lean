import Conveyor.Node

namespace Conveyor

/-- A call of node code, and the items it is made with. -/
inductive Call
  | setup (node : String) (inputs : Ports)
  | attempt (node : String) (inputs : Ports) (index number : Nat)

namespace Call

def node : Call → String
  | setup node _ | attempt node .. => node

def inputs : Call → Ports
  | setup _ inputs | attempt _ inputs .. => inputs

end Call

/-- What a run tells its sink. -/
inductive Notice
  | started (title : Option String)
  | nodeFinished (node type : String) (output : Ports) (success : Bool)
  | completed (nodes : Nat) (millis : Option Nat)
  | failed (node : Option String) (message : String)

namespace Run

/-- What a run asks: what its nodes ask, and what it does on its own account. -/
inductive Ask
  | within (question : Node.Ask)
  | begin (call : Call)
  | notify (notice : Notice)
  | now

abbrev Ask.Reply : Ask → Type
  | within question => question.Reply
  | begin _ => Unit
  | notify _ => Except String Unit
  | now => Nat

end Run

abbrev RunWork := Work Run.Ask.Reply

namespace RunWork

def within (question : Node.Ask) : RunWork question.Reply := Work.question (Run.Ask.within question)

def begin (call : Call) : RunWork Unit := Work.question (Run.Ask.begin call)

/-- What the sink replies does not matter. -/
def notify (notice : Notice) : RunWork Unit := do
  let _ ← (Work.question (Run.Ask.notify notice) : RunWork (Except String Unit))

def now : RunWork Nat := Work.question Run.Ask.now

def isCancelled : RunWork Bool := within .isCancelled

def awaitCancel (limit : Option Nat) : RunWork Node.Fired := within (.awaitCancel limit)

/-- Node code that nothing cuts short. -/
def freely : Work Node.Ask.Reply α → RunWork α
  | .done value => .done value
  | .panic payload => .panic payload
  | .ask question next => .ask (.within question) fun reply => freely (next reply)

/-- The time limit of an attempt, and what is left of it. -/
structure Limit where
  total : Nat
  left : Nat

def Limit.of (millis : Nat) : Limit := ⟨millis, millis⟩

/-- Waits within an attempt. The token ends the attempt, and so does the limit if it is
reached before the wait is over. -/
def pause (limit : Option Limit) (millis : Nat) (next : Option Limit → RunWork (Except Failure α)) :
    RunWork (Except Failure α) :=
  match limit with
  | none => do if ← awaitCancel (some millis) then return .error .cancelled else next none
  | some l =>
    if millis ≤ l.left then do
      if ← awaitCancel (some millis) then return .error .cancelled
      else next (some { l with left := l.left - millis })
    else if l.left = 0 then return .error (.timeout l.total)
    else do
      if ← awaitCancel (some l.left) then return .error .cancelled
      else return .error (.timeout l.total)

/-- A wait within an attempt that only the token or the limit ends. -/
def pauseForGood (limit : Option Limit) : RunWork (Except Failure α) :=
  match limit with
  | none => do let _ ← awaitCancel none; return .error .cancelled
  | some l =>
    if l.left = 0 then return .error (.timeout l.total)
    else do
      if ← awaitCancel (some l.left) then return .error .cancelled
      else return .error (.timeout l.total)

def panicText : Option String → String
  | some payload => s!"node panicked: {payload}"
  | none => "node panicked"

/-- Node code as an attempt runs it. While it waits, the token or the time limit may end it;
a panic is a failure like any other. A token that fired without a wait is only noticed at
the next one. -/
def guarded (limit : Option Limit) :
    Work Node.Ask.Reply (Except Failure α) → RunWork (Except Failure α)
  | .done result => return result
  | .panic payload => return .error (.execution (panicText payload))
  | .ask (.sleep millis) next =>
    if millis = 0 then guarded limit (next ())
    else pause limit millis fun limit => guarded limit (next ())
  | .ask (.awaitCancel millis) next =>
    .ask (.within .isCancelled) fun fired =>
      if fired then guarded limit (next true)
      else
        match millis with
        | none => pauseForGood limit
        | some millis => pause limit millis fun limit => guarded limit (next false)
  | .ask .hang _ => pauseForGood limit
  | .ask question next => .ask (.within question) fun reply => guarded limit (next reply)

end RunWork

end Conveyor
