import Conveyor.Json
import Conveyor.Failure

namespace Conveyor

/-- What an error-shaped item carries besides its payload. -/
structure ItemError where
  kind : String
  message : String
  parameters : Table Json

/-- One unit of data flowing along a port. -/
structure Item where
  json : Json
  error : Option ItemError := none
  /-- the input item this one was produced from -/
  pairedItem : Option Nat := none

/-- One list of items per port. -/
abbrev Ports := List (List Item)

namespace Item

def new (json : Json) : Item := { json }

def empty : Item := new (.obj [])

def failure (e : Failure) (parameters : Table Json) (index : Nat) : Item :=
  { json := .ofFields [("success", .bool false), ("error", .str e.message)]
    error := some ⟨e.kind, e.message, parameters⟩
    pairedItem := some index }

def pairedWith (index : Nat) (item : Item) : Item := { item with pairedItem := some index }

def isError (item : Item) : Bool := item.error.isSome

end Item

namespace Ports

/-- The items on a port; none where there is no such port. -/
def on (port : Nat) (ports : Ports) : List Item := ports.getD port []

def all (ports : Ports) : List Item := ports.flatten

def anyError (ports : Ports) : Bool := (all ports).any Item.isError

end Ports

/-- What a node produced for one input item. -/
structure Output where
  port : Nat := 0
  items : List Json := []

end Conveyor
