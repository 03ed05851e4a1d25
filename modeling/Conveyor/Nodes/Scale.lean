import Conveyor.Json.Printer
import Conveyor.Registry

namespace Conveyor.Nodes.Scale

def description : Description :=
  { displayName := "Scale"
    name := "math.scale"
    description := "Multiply a numeric field by a factor"
    category := "transform"
    parameters :=
      [{ name := "factor", kind := .number, required := true },
        { name := "field", kind := .string, default := some (.str "value") }] }

/-- The item to scale, an object without fields where there is none. -/
def payload (ctx : Context) (index : Nat) : Json :=
  ((ctx.item? index).map Item.json).getD (.obj [])

def number (field : String) (item : Json) : Except Failure Float :=
  match item.get? field with
  | none => .error (.execution s!"item has no field '{field}'")
  | some value =>
    match value.toFloat? with
    | none => .error (.execution s!"field '{field}' is {value.typeName}, not a number")
    | some x => .ok x

/-- A value with one of its fields written. Null becomes an object with that field; other values
than objects have no place for it. -/
def write? (field : String) (value : Json) : Json → Option Json
  | .obj fields => some (.obj (Table.insert field value fields))
  | .null => some (.obj (Table.insert field value .empty))
  | _ => none

/-- The item with one of its fields multiplied. A product that is no finite number is null, and a
write without a place for it panics. -/
def scale (factor : Float) (field : String) (item : Json) : NodeWork Output := do
  let x ← liftM (number field item)
  match write? field (.real (x * factor)) item with
  | some scaled => return { items := [scaled] }
  | none => NodeWork.panic s!"cannot access key {field.quote} in JSON {item.typeName}"

def run (ctx : Context) (index : Nat) : NodeWork Output := do
  let factor ← liftM (ctx.float "factor" index)
  let field ← liftM (ctx.text "field" index)
  scale factor field (payload ctx index)

def node : Node := { description, run := fun ctx index _ => run ctx index }

/-- A fixed factor is checked once for all items. -/
def factory : Factory := fun parameters =>
  match parameters.get? "factor" with
  | some (.literal (.num _)) => .ok node
  | some (.literal value) => .error (.typeMismatch "factor" "number" value.typeName)
  | _ => .ok node

end Conveyor.Nodes.Scale
