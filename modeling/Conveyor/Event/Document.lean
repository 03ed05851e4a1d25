import Conveyor.Event
import Conveyor.Json.Record

namespace Conveyor

namespace Occurrence

/-- The tag of an event. -/
def tag : Occurrence → String
  | workflowStarted _ => "WorkflowStarted"
  | nodeFinished .. => "NodeFinished"
  | workflowCompleted .. => "WorkflowCompleted"
  | workflowFailed .. => "WorkflowFailed"

def orNull (f : α → Json) : Option α → Json
  | some value => f value
  | none => .null

def fields : Occurrence → List (String × Json)
  | workflowStarted workflow => [("workflow", orNull .str workflow)]
  | nodeFinished node type items errors success =>
    [("node_id", .str node), ("node_type", .str type), ("items", .nat items), ("errors", .nat errors),
      ("success", .bool success)]
  | workflowCompleted nodes millis => [("node_count", .nat nodes), ("duration_ms", orNull .nat millis)]
  | workflowFailed node error => [("node_id", orNull .str node), ("error", .str error)]

end Occurrence

namespace Event

def toJson (event : Event) : Json :=
  .ofFields <|
    [("type", .str event.occurrence.tag), ("execution_id", .str event.executionId.text)]
      ++ event.occurrence.fields ++ [("timestamp", .str event.timestamp.text)]

def uuid? (tree : Tree) : Option Uuid := tree.string?.bind Uuid.ofText?

def timestamp? (tree : Tree) : Option Timestamp := tree.string?.bind Timestamp.ofText?

/-- Reads the fields behind the tag. -/
def ofTag? (tag : String) (tree : Tree) : Option Event :=
  if tag = "WorkflowStarted" then do
    let slots ← tree.slots? ["execution_id", "workflow", "timestamp"]
    match slots.given with
    | [id, workflow, timestamp] =>
      return {
        executionId := ← Tree.required uuid? id
        occurrence := .workflowStarted (← Tree.nullable slots.positional Tree.string? workflow)
        timestamp := ← Tree.required timestamp? timestamp }
    | _ => none
  else if tag = "NodeFinished" then do
    let slots ← tree.slots?
      ["execution_id", "node_id", "node_type", "items", "errors", "success", "timestamp"]
    match slots.given with
    | [id, node, type, items, errors, success, timestamp] =>
      return {
        executionId := ← Tree.required uuid? id
        occurrence := .nodeFinished (← Tree.required Tree.string? node)
          (← Tree.required Tree.string? type) (← Tree.required (Tree.unsigned? 64) items)
          (← Tree.required (Tree.unsigned? 64) errors) (← Tree.required Tree.bool? success)
        timestamp := ← Tree.required timestamp? timestamp }
    | _ => none
  else if tag = "WorkflowCompleted" then do
    let slots ← tree.slots? ["execution_id", "node_count", "duration_ms", "timestamp"]
    match slots.given with
    | [id, nodes, millis, timestamp] =>
      return {
        executionId := ← Tree.required uuid? id
        occurrence := .workflowCompleted (← Tree.required (Tree.unsigned? 64) nodes)
          (← Tree.nullable slots.positional (Tree.unsigned? 64) millis)
        timestamp := ← Tree.required timestamp? timestamp }
    | _ => none
  else if tag = "WorkflowFailed" then do
    let slots ← tree.slots? ["execution_id", "node_id", "error", "timestamp"]
    match slots.given with
    | [id, node, error, timestamp] =>
      return {
        executionId := ← Tree.required uuid? id
        occurrence := .workflowFailed (← Tree.nullable slots.positional Tree.string? node)
          (← Tree.required Tree.string? error)
        timestamp := ← Tree.required timestamp? timestamp }
    | _ => none
  else none

/-- An object with its tag among the fields, or an array that starts with the tag. -/
def ofTree? (levels : Tree.Levels) (tree : Tree) : Option Event := do
  let _ ← tree.toJson? levels
  match tree with
  | .obj fields =>
    match fields.partition (·.1 = some "type") with
    | ([(_, .str (some tag))], rest) => ofTag? tag (.obj rest)
    | _ => none
  | .arr (.str (some tag) :: rest) => ofTag? tag (.arr rest)
  | _ => none

end Event

end Conveyor
