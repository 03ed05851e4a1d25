import Conveyor.Json

namespace Conveyor

/-- The kinds of value a parameter may be declared to take. -/
inductive Kind
  | string | number | boolean | object | array | any
deriving DecidableEq

namespace Kind

def all : List Kind := [string, number, boolean, object, array, any]

def name : Kind → String
  | string => "string"
  | number => "number"
  | boolean => "boolean"
  | object => "object"
  | array => "array"
  | any => "any"

def ofName? (name : String) : Option Kind := all.find? (·.name = name)

def accepts : Kind → Json → Bool
  | string, .str _ => true
  | number, .num _ => true
  | boolean, .bool _ => true
  | object, .obj _ => true
  | array, .arr _ => true
  | any, _ => true
  | _, _ => false

end Kind

/-- A declared parameter of a node type. -/
structure Spec where
  name : String
  displayName : String := name
  kind : Kind
  default : Option Json := none
  required : Bool := false
  description : String := ""

namespace Spec

def new (name : String) (kind : Kind) : Spec := { name, kind }

def asRequired (spec : Spec) : Spec := { spec with required := true }

/-- Null is a default like any other. -/
def withDefault (default : Json) (spec : Spec) : Spec := { spec with default := some default }

def withDisplayName (displayName : String) (spec : Spec) : Spec := { spec with displayName }

def withDescription (description : String) (spec : Spec) : Spec := { spec with description }

end Spec

/-- What a node type says about itself. -/
structure Description where
  displayName : String
  /-- the type tag -/
  name : String
  description : String := ""
  category : String := "general"
  inputs : Nat := 1
  outputs : Nat := 1
  parameters : List Spec := []

namespace Description

def new (name displayName : String) : Description := { name, displayName }

def withDescription (text : String) (description : Description) : Description :=
  { description with description := text }

def withCategory (category : String) (description : Description) : Description :=
  { description with category }

def withOutputs (outputs : Nat) (description : Description) : Description :=
  { description with outputs }

def withParameter (parameter : Spec) (description : Description) : Description :=
  { description with parameters := description.parameters ++ [parameter] }

/-- The first declaration of a name counts. -/
def parameter? (name : String) (description : Description) : Option Spec :=
  description.parameters.find? (·.name = name)

end Description

end Conveyor
