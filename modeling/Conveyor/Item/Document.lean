import Conveyor.Item
import Conveyor.Json.Record

namespace Conveyor

def ItemError.toJson (e : ItemError) : Json :=
  .ofFields [("kind", .str e.kind), ("message", .str e.message), ("parameters", .obj e.parameters)]

def Item.toJson (item : Item) : Json :=
  .ofFields <|
    [("json", item.json)]
      ++ (item.error.map fun e => ("error", e.toJson)).toList
      ++ (item.pairedItem.map fun index => ("paired_item", .nat index)).toList

def Ports.toJson (ports : Ports) : Json := .arr (ports.map fun items => .arr (items.map Item.toJson))

def ItemError.ofTree? (levels : Tree.Levels) (tree : Tree) : Option ItemError := do
  let inner ← Tree.enter levels
  let slots ← tree.slots? ["kind", "message", "parameters"]
  match slots.given with
  | [kind, message, parameters] =>
    return {
      kind := ← Tree.required Tree.string? kind
      message := ← Tree.required Tree.string? message
      parameters := ← Tree.required (Tree.table? inner Tree.toJson?) parameters }
  | _ => none

def Item.ofTree? (levels : Tree.Levels) (tree : Tree) : Option Item := do
  let inner ← Tree.enter levels
  let slots ← tree.slots? ["json", "error", "paired_item"]
  match slots.given with
  | [json, error, pairedItem] =>
    return {
      json := ← Tree.required (Tree.toJson? inner) json
      error := ← Tree.optional (ItemError.ofTree? inner) error
      pairedItem := ← Tree.optional (Tree.unsigned? 64) pairedItem }
  | _ => none

def Ports.ofTree? (levels : Tree.Levels) (tree : Tree) : Option Ports :=
  tree.list? levels fun inner port => port.list? inner Item.ofTree?

end Conveyor
