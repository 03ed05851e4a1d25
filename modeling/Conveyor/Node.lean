import Conveyor.Context
import Conveyor.Http.Message
import Conveyor.Payment
import Conveyor.Work

namespace Conveyor

namespace Node

/-- What node code may ask of its surroundings. Everything else about a node is a function of
what it is given. -/
inductive Ask
  | sleep (millis : Nat)
  /-- waits for the cancellation token, for a while or for good -/
  | awaitCancel (limit : Option Nat)
  /-- waits for nothing -/
  | hang
  | cancel
  | isCancelled
  /-- tells the sink of an error of its own accord -/
  | report (node : Option String) (message : String)
  | send (request : Http.Request)
  | sign (offer : Payment.Offer)

/-- Whether a wait for the token ended because the token fired. -/
abbrev Fired := Bool

abbrev Ask.Reply : Ask → Type
  | sleep _ => Unit
  | awaitCancel _ => Fired
  | hang => Empty
  | cancel => Unit
  | isCancelled => Bool
  | report .. => Except String Unit
  | send _ => Http.Fate
  | sign _ => Except Failure Payment.Proof

/-- Thirty years of 365 days, in milliseconds: no sleep lasts longer. A time limit may. -/
def longestSleep : Nat := 946080000000

/-- How long a sleep lasts. -/
def nap (millis : Nat) : Nat := min millis longestSleep

end Node

abbrev NodeWork := ExceptT Failure (Work Node.Ask.Reply)

namespace NodeWork

def ask (question : Node.Ask) : NodeWork question.Reply :=
  ExceptT.lift (m := Work Node.Ask.Reply) (Work.question question)

def panic (payload : Option String) : NodeWork α := ExceptT.mk (Work.panic payload)

def sleep (millis : Nat) : NodeWork Unit := ask (.sleep (Node.nap millis))

/-- Sleeps until the token fires, if it does. -/
def sleepOrCancel (millis : Nat) : NodeWork Node.Fired :=
  ask (.awaitCancel (some (Node.nap millis)))

def hang : NodeWork α := do nomatch (← ask .hang)

end NodeWork

/-- A node type's behaviour. Its parameters, its items and the number of the attempt are all it
goes by. -/
structure Node where
  description : Description
  /-- runs once before any item, also when there are none -/
  setup : Context → NodeWork Unit := fun _ => pure ()
  /-- one attempt at the item with the given index, the first attempt being 1 -/
  run : (ctx : Context) → (index attempt : Nat) → NodeWork Output

end Conveyor
