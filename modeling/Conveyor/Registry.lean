import Conveyor.Fault
import Conveyor.Node
import Conveyor.Workflow

namespace Conveyor

/-- Makes a node for the parameters it is placed with, unless it refuses them. -/
abbrev Factory := Table Parameter → Except Failure Node

/-- The known node types by their tag. -/
abbrev Registry := Table Factory

namespace Registry

/-- A second registration of a tag replaces the first. -/
def register (tag : String) (factory : Factory) (registry : Registry) : Registry :=
  registry.insert tag factory

def build (registry : Registry) (node tag : String) (parameters : Table Parameter) :
    Except Fault Node :=
  match registry.get? tag with
  | none => .error (.unknownNodeType tag)
  | some factory =>
    match factory parameters with
    | .ok made => .ok made
    | .error e => .error (.construction node e.message)

/-- A node without parameters. -/
def resolve (registry : Registry) (tag : String) : Except Fault Node := registry.build tag tag .empty

def create (registry : Registry) (placed : Placed) : Except Fault Node :=
  registry.build placed.id placed.type placed.parameters

/-- What a type says about itself, if it can be made without parameters. -/
def describe (registry : Registry) (tag : String) : Option Description :=
  match registry.resolve tag with
  | .ok node => some node.description
  | .error _ => none

def types (registry : Registry) : List String := registry.names

end Registry

end Conveyor
