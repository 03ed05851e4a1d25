import Conveyor.Failure

namespace Conveyor

/-- What the owner of a run may hand to its nodes, one value of each sort. -/
inductive Capability
  | text | integer | flag | texts | wallet
deriving DecidableEq

namespace Capability

/-- What is handed over. A wallet holds nothing itself: it is asked during the run. -/
abbrev Value : Capability → Type
  | text => String
  | integer => Int
  | flag => Bool
  | texts => List String
  | wallet => Unit

/-- How messages call it. -/
def label : Capability → String
  | text => "alloc::string::String"
  | integer => "i64"
  | flag => "bool"
  | texts => "alloc::vec::Vec<alloc::string::String>"
  | wallet => "alloc::sync::Arc<dyn chainnodes::x402::PaymentSigner>"

end Capability

abbrev Capabilities := (c : Capability) → Option c.Value

namespace Capabilities

def none : Capabilities := fun _ => .none

/-- Of repeated sorts the last counts. -/
def insert (c : Capability) (value : c.Value) (given : Capabilities) : Capabilities := fun d =>
  if h : c = d then some (h ▸ value) else given d

def require (c : Capability) (given : Capabilities) : Except Failure c.Value :=
  match given c with
  | some value => .ok value
  | .none => .error (.missingCollaborator c.label)

end Capabilities

end Conveyor
