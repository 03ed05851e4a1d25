import Conveyor.Engine
import Conveyor.Event
import Conveyor.Item.Document
import Conveyor.Json.Printer
import Conveyor.Nodes

namespace Conveyor.Command

/-! What the commands print, line by line. -/

def loadingLine (file : String) : String := s!"🚀 Loading workflow from: {file}"

def openingLines (workflow : Workflow) : List String :=
  [s!"📋 Workflow: {workflow.title}", s!"   Nodes: {workflow.nodes.length}",
    s!"   Connections: {workflow.edges.length}", ""]

def eventLine (event : Event) : String :=
  match event.occurrence with
  | .workflowStarted _ => s!"▶️  Workflow started ({event.executionId.text})"
  | .nodeFinished node type items errors success =>
    if success then s!"  ✅ {node} ({type}): {items} items"
    else s!"  ❌ {node} ({type}): {items} items, {errors} failed"
  | .workflowCompleted count millis =>
    s!"✨ Workflow completed: {count} nodes" ++ (millis.map fun ms => s!" in {ms}ms").getD ""
  | .workflowFailed (some node) error => s!"💥 Workflow failed at {node}: {error}"
  | .workflowFailed none error => s!"💥 Workflow failed: {error}"

def closingLines (result : Result) : List String :=
  ["", s!"📊 Execution {result.executionId.text}",
      "   Order: " ++ String.intercalate " → " result.order]
    ++ if result.hasErrors then ["   ⚠️  Some items failed; see their error fields"] else []

def outputsText (result : Result) : String :=
  (Json.obj (result.outputs.mapValues Ports.toJson)).pretty 0

def errorLine (message : String) : String := s!"Error: {message}"

def validatingLine (file : String) : String := s!"🔍 Validating workflow: {file}"

def startIds (workflow : Workflow) (plan : Plan) : List String :=
  plan.startNodes.filterMap fun position => workflow.nodes[position]?.map Placed.id

def validLines (workflow : Workflow) (plan : Plan) : List String :=
  ["✅ Workflow is valid:", s!"   Name: {workflow.title}", s!"   Nodes: {workflow.nodes.length}",
    s!"   Connections: {workflow.edges.length}",
    "   Start nodes: " ++ String.intercalate ", " (startIds workflow plan)]

def specLine (spec : Spec) : String :=
  s!"      - {spec.name} \"{spec.displayName}\": {spec.kind.name}"
    ++ if spec.required then " (required)" else ""

def typeLines (registry : Registry) (tag : String) : List String :=
  match registry.describe tag with
  | some description =>
    [s!"  • {tag} ({description.category})", s!"    {description.description}"]
      ++ description.parameters.map specLine
  | none => [s!"  • {tag}"]

def nodesLines (registry : Registry) : List String :=
  ["📦 Available Node Types:", ""] ++ registry.types.flatMap (typeLines registry)

def createdLines (output : String) : List String :=
  [s!"✨ Created example workflow: {output}", "", "Run it with:", s!"  chainflow run --file {output}"]

end Conveyor.Command
