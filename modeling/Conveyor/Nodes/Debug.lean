import Conveyor.Registry

namespace Conveyor.Nodes.Debug

def description : Description :=
  { displayName := "Debug Log"
    name := "debug.log"
    description := "Logs items for debugging"
    category := "debug"
    parameters := [{ name := "label", kind := .string, default := some (.str "DEBUG") }] }

/-- Passes the item on, if there is a label to log it under. -/
def run (ctx : Context) (index : Nat) : Except Failure Output := do
  let _ ← ctx.text "label" index
  return { items := [ctx.payload index] }

def node : Node := { description, run := fun ctx index _ => liftM (run ctx index) }

def factory : Factory := fun _ => .ok node

end Conveyor.Nodes.Debug
