import Conveyor.Nodes.Debug
import Conveyor.Nodes.Delay
import Conveyor.Nodes.PaidRequest
import Conveyor.Nodes.Request
import Conveyor.Nodes.Scale
import Conveyor.Nodes.SetFields

namespace Conveyor.Nodes

def all : List (String × Factory) :=
  [("debug.log", Debug.factory), ("http.request", Request.factory), ("math.scale", Scale.factory),
    ("time.delay", Delay.factory), ("transform.set", SetFields.factory),
    ("x402.request", PaidRequest.factory)]

/-- Adds the built-in node types. -/
def registerAll (registry : Registry) : Registry :=
  all.foldl (fun registry (tag, factory) => registry.register tag factory) registry

def standard : Registry := registerAll .empty

end Conveyor.Nodes
