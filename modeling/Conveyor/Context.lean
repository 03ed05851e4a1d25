import Conveyor.Capability
import Conveyor.Description
import Conveyor.Item
import Conveyor.Parameter
import Conveyor.Uuid

namespace Conveyor

/-- What a node sees of its invocation. -/
structure Context where
  executionId : Uuid
  nodeId : String
  description : Description
  parameters : Table Parameter := .empty
  inputs : Ports := []
  capabilities : Capabilities := .none

namespace Context

def nodeType (ctx : Context) : String := ctx.description.name

/-- The items on the first port are the ones a node is run for. -/
def inputItems (ctx : Context) : List Item := ctx.inputs.on 0

def item? (ctx : Context) (index : Nat) : Option Item := ctx.inputItems[index]?

def itemCount (ctx : Context) : Nat := ctx.inputItems.length

/-- The payload an expression sees; null where there is no such item. -/
def payload (ctx : Context) (index : Nat) : Json := ((ctx.item? index).map Item.json).getD .null

def mismatch (name expected : String) (actual : Json) : Failure :=
  .typeMismatch name expected actual.typeName

/-- Null stands for a parameter that is not required. -/
def fits (spec : Spec) (value : Json) : Bool :=
  (value.isNull && !spec.required) || spec.kind.accepts value

/-- The value given with the node, else the declared default, else the caller's. A value
that does not resolve or does not fit is not replaced by a default. -/
def resolve (ctx : Context) (name : String) (index : Nat) (fallback : Option Json) :
    Except Failure (Option Json) := do
  let spec := ctx.description.parameter? name
  let value ← match ctx.parameters.get? name with
    | some given => some <$> given.resolve (ctx.payload index) index
    | none => pure ((spec.bind Spec.default).or fallback)
  match spec, value with
  | some spec, some value =>
    if fits spec value then return some value else throw (mismatch name spec.kind.name value)
  | _, value => return value

def parameterOr (ctx : Context) (name : String) (index : Nat) (fallback : Option Json) :
    Except Failure Json := do
  match ← ctx.resolve name index fallback with
  | some value => return value
  | none => throw (.missingParameter name)

def parameter (ctx : Context) (name : String) (index : Nat) : Except Failure Json :=
  ctx.parameterOr name index none

def isRequired (ctx : Context) (name : String) : Bool :=
  (ctx.description.parameter? name).any Spec.required

/-- None where the parameter is absent or null. A required one must be there. -/
def optional (ctx : Context) (name : String) (index : Nat) : Except Failure (Option Json) :=
  if ctx.isRequired name then some <$> ctx.parameter name index
  else Option.filter (!·.isNull) <$> ctx.resolve name index none

def text (ctx : Context) (name : String) (index : Nat) : Except Failure String := do
  let value ← ctx.parameter name index
  match value.toString? with
  | some s => return s
  | none => throw (mismatch name "string" value)

def float (ctx : Context) (name : String) (index : Nat) : Except Failure Float := do
  let value ← ctx.parameter name index
  match value.toFloat? with
  | some x => return x
  | none => throw (mismatch name "number" value)

def flag (ctx : Context) (name : String) (index : Nat) : Except Failure Bool := do
  let value ← ctx.parameter name index
  match value.toBool? with
  | some b => return b
  | none => throw (mismatch name "boolean" value)

/-- Declared names first, then the names of what else was given. -/
def parameterNames (ctx : Context) : List String :=
  let declared := ctx.description.parameters.map Spec.name
  declared ++ ctx.parameters.names.filter (· ∉ declared)

/-- What is reported of one parameter: its value, or its raw form if that fails. -/
def reported (ctx : Context) (index : Nat) (name : String) : Option Json :=
  match ctx.resolve name index none with
  | .ok value => value
  | .error _ => (ctx.parameters.get? name).map Parameter.toJson

/-- Every parameter for one item, as error items carry them. -/
def resolvedParameters (ctx : Context) (index : Nat) : Table Json :=
  ctx.parameterNames.foldl (fun out name =>
    match ctx.reported index name with
    | some value => out.insert name value
    | none => out) .empty

end Context

end Conveyor
