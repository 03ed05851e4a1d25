import Conveyor.Workflow
import Conveyor.Json.Record
import Conveyor.Json.Reader
import Conveyor.Fault

namespace Conveyor

def RetryPolicy.toJson (policy : RetryPolicy) : Json :=
  .ofFields
    [("max_attempts", .nat policy.maxAttempts), ("delay_ms", .nat policy.delayMillis),
      ("backoff_multiplier", .real policy.backoffMultiplier)]

def Placed.toJson (node : Placed) : Json :=
  .ofFields <|
    [("id", .str node.id), ("type", .str node.type),
      ("parameters", .obj (node.parameters.mapValues Parameter.toJson))]
      ++ (node.retryPolicy.map fun policy => ("retry_policy", policy.toJson)).toList

def Edge.toJson (edge : Edge) : Json :=
  .ofFields
    [("source", .str edge.source), ("source_port", .nat edge.sourcePort),
      ("destination", .str edge.destination), ("destination_port", .nat edge.destinationPort)]

def Workflow.toJson (workflow : Workflow) : Json :=
  .ofFields <|
    [("id", .str workflow.id)]
      ++ (workflow.name.map fun name => ("name", .str name)).toList
      ++ [("nodes", .arr (workflow.nodes.map Placed.toJson)),
        ("edges", .arr (workflow.edges.map Edge.toJson))]

def Parameter.ofTree? (levels : Tree.Levels) (tree : Tree) : Option Parameter :=
  Parameter.ofJson <$> tree.toJson? levels

def RetryPolicy.ofTree? (levels : Tree.Levels) (tree : Tree) : Option RetryPolicy := do
  let _ ← Tree.enter levels
  let slots ← tree.slots? ["max_attempts", "delay_ms", "backoff_multiplier"]
  match slots.given with
  | [maxAttempts, delayMillis, backoffMultiplier] =>
    return {
      maxAttempts := ← Tree.required (Tree.unsigned? 32) maxAttempts
      delayMillis := ← Tree.required (Tree.unsigned? 64) delayMillis
      backoffMultiplier := ← Tree.orElse Tree.float? 1.0 backoffMultiplier }
  | _ => none

def Placed.ofTree? (levels : Tree.Levels) (tree : Tree) : Option Placed := do
  let inner ← Tree.enter levels
  let slots ← tree.slots? ["id", "type", "parameters", "retry_policy"]
  match slots.given with
  | [id, type, parameters, retryPolicy] =>
    return {
      id := ← Tree.required Tree.string? id
      type := ← Tree.required Tree.string? type
      parameters := ← Tree.orElse (Tree.table? inner Parameter.ofTree?) .empty parameters
      retryPolicy := ← Tree.optional (RetryPolicy.ofTree? inner) retryPolicy }
  | _ => none

def Edge.ofTree? (levels : Tree.Levels) (tree : Tree) : Option Edge := do
  let _ ← Tree.enter levels
  let slots ← tree.slots? ["source", "source_port", "destination", "destination_port"]
  match slots.given with
  | [source, sourcePort, destination, destinationPort] =>
    return {
      source := ← Tree.required Tree.string? source
      sourcePort := ← Tree.orElse (Tree.unsigned? 64) 0 sourcePort
      destination := ← Tree.required Tree.string? destination
      destinationPort := ← Tree.orElse (Tree.unsigned? 64) 0 destinationPort }
  | _ => none

def Workflow.ofTree? (levels : Tree.Levels) (tree : Tree) : Option Workflow := do
  let inner ← Tree.enter levels
  let slots ← tree.slots? ["id", "name", "nodes", "edges"]
  match slots.given with
  | [id, name, nodes, edges] =>
    return {
      id := ← Tree.required Tree.string? id
      name := ← Tree.optional Tree.string? name
      nodes := ← Tree.orElse (Tree.list? inner Placed.ofTree?) [] nodes
      edges := ← Tree.orElse (Tree.list? inner Edge.ofTree?) [] edges }
  | _ => none

/-- A workflow as a document spells it. -/
def Workflow.ofText (text : String) : Except Fault Workflow :=
  match (Tree.ofText? text).bind (Workflow.ofTree? Tree.textLevels) with
  | some workflow => .ok workflow
  | none => .error .serialization

/-- A workflow taken from a value rather than from text, where nesting has no limit. -/
def Workflow.ofJson? (json : Json) : Option Workflow := Workflow.ofTree? none (.ofJson json)

end Conveyor
