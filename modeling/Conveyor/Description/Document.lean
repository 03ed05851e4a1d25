import Conveyor.Description
import Conveyor.Json.Record

namespace Conveyor

def Spec.toJson (spec : Spec) : Json :=
  .ofFields <|
    [("name", .str spec.name), ("display_name", .str spec.displayName), ("kind", .str spec.kind.name)]
      ++ (spec.default.map (("default", ·))).toList
      ++ [("required", .bool spec.required), ("description", .str spec.description)]

def Description.toJson (description : Description) : Json :=
  .ofFields
    [("display_name", .str description.displayName), ("name", .str description.name),
      ("description", .str description.description), ("category", .str description.category),
      ("inputs", .nat description.inputs), ("outputs", .nat description.outputs),
      ("parameters", .arr (description.parameters.map Spec.toJson))]

def Kind.ofTree? (tree : Tree) : Option Kind := tree.choice?.bind Kind.ofName?

/-- A default that is written as null is read as no default. -/
def Spec.ofTree? (levels : Tree.Levels) (tree : Tree) : Option Spec := do
  let inner ← Tree.enter levels
  let slots ← tree.slots? ["name", "display_name", "kind", "default", "required", "description"]
  match slots.given with
  | [name, displayName, kind, default, required, description] =>
    return {
      name := ← Tree.required Tree.string? name
      displayName := ← Tree.required Tree.string? displayName
      kind := ← Tree.required Kind.ofTree? kind
      default := ← Tree.optional (Tree.toJson? inner) default
      required := ← Tree.required Tree.bool? required
      description := ← Tree.orElse Tree.string? "" description }
  | _ => none

def Description.ofTree? (levels : Tree.Levels) (tree : Tree) : Option Description := do
  let inner ← Tree.enter levels
  let slots ← tree.slots?
    ["display_name", "name", "description", "category", "inputs", "outputs", "parameters"]
  match slots.given with
  | [displayName, name, description, category, inputs, outputs, parameters] =>
    return {
      displayName := ← Tree.required Tree.string? displayName
      name := ← Tree.required Tree.string? name
      description := ← Tree.required Tree.string? description
      category := ← Tree.required Tree.string? category
      inputs := ← Tree.required (Tree.unsigned? 64) inputs
      outputs := ← Tree.required (Tree.unsigned? 64) outputs
      parameters := ← Tree.required (Tree.list? inner Spec.ofTree?) parameters }
  | _ => none

end Conveyor
