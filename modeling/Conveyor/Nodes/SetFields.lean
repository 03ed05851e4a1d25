import Conveyor.Registry

namespace Conveyor.Nodes.SetFields

def description : Description :=
  { displayName := "Set Fields"
    name := "transform.set"
    description := "Merge fields into each item"
    category := "transform"
    parameters :=
      [{ name := "values", kind := .object, required := true },
        { name := "keepOnlySet", kind := .boolean, default := some (.bool false) }] }

/-- Sets the fields in order. Each value is resolved against the item as it came in. -/
def assign (source : Json) (index : Nat) : Table Json → Table Json → Except Failure (Table Json)
  | [], out => .ok out
  | (name, value) :: rest, out => do
    let resolved ← (Parameter.ofJson value).resolve source index
    assign source index rest (out.insert name resolved)

/-- What is kept of an item before fields are set. -/
def kept (source : Json) (keepOnlySet : Bool) : Table Json :=
  match source, keepOnlySet with
  | .obj fields, false => fields
  | _, _ => .empty

def run (ctx : Context) (index : Nat) : Except Failure Output := do
  let values : Table Json ← match ← ctx.parameter "values" index with
    | .obj values => pure values
    | _ => pure .empty
  let source := ctx.payload index
  let out := kept source (← ctx.flag "keepOnlySet" index)
  return { items := [.obj (← assign source index values out)] }

def node : Node := { description, run := fun ctx index _ => liftM (run ctx index) }

def factory : Factory := fun _ => .ok node

end Conveyor.Nodes.SetFields
