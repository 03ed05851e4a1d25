import Conveyor.Json.Printer
import Conveyor.Registry

namespace Conveyor.Nodes.Delay

def description : Description :=
  { displayName := "Delay"
    name := "time.delay"
    description := "Delay each item for the given milliseconds"
    category := "time"
    parameters := [{ name := "delayMs", kind := .number, default := some (.nat 1000) }] }

/-- Whole milliseconds; nothing for a negative number. -/
def millis (x : Float) : Nat := x.toUInt64.toNat

def run (ctx : Context) (index : Nat) : NodeWork Output := do
  let delay ← liftM (ctx.float "delayMs" index)
  if ← NodeWork.sleepOrCancel (millis delay) then throw .cancelled
  else return { items := [ctx.payload index] }

def node : Node := { description, run := fun ctx index _ => run ctx index }

/-- A fixed delay is a number that is not negative. -/
def factory : Factory := fun parameters =>
  match parameters.get? "delayMs" with
  | some (.literal delay) =>
    if delay.toFloat?.any fun x => !(x < 0) then .ok node
    else .error (.execution s!"delayMs must be a non-negative number, got {delay.text}")
  | _ => .ok node

end Conveyor.Nodes.Delay
