namespace Conveyor

/-- Why a whole run ended without a result, or a document could not be loaded. -/
inductive Fault
  | cyclicWorkflow
  | noStartNode
  | unknownNodeType (tag : String)
  | construction (node reason : String)
  | unreachable (nodes : List String)
  | duplicateNode (id : String)
  | invalidConnection (reason : String)
  | cancelled
  | workflowNotFound (id : String)
  | io (reason : String)
  | serialization
deriving DecidableEq

namespace Fault

def kind : Fault → String
  | cyclicWorkflow => "cyclic_workflow"
  | noStartNode => "no_start_node"
  | unknownNodeType _ => "unknown_node_type"
  | construction .. => "node_construction_failed"
  | unreachable _ => "unreachable_node"
  | duplicateNode _ => "duplicate_node_id"
  | invalidConnection _ => "invalid_connection"
  | cancelled => "cancelled"
  | workflowNotFound _ => "workflow_not_found"
  | io _ => "io"
  | serialization => "serialization"

def message : Fault → String
  | cyclicWorkflow => "Workflow contains a cycle"
  | noStartNode => "Workflow has no start node"
  | unknownNodeType tag => s!"Unknown node type: {tag}"
  | construction node reason => s!"Node '{node}' could not be constructed: {reason}"
  | unreachable nodes => "Nodes never became ready: " ++ String.intercalate ", " nodes
  | duplicateNode id => s!"Duplicate node id: {id}"
  | invalidConnection reason => s!"Invalid connection: {reason}"
  | cancelled => "Execution cancelled"
  | workflowNotFound id => s!"Workflow not found: {id}"
  | io reason => s!"IO error: {reason}"
  | serialization => "Serialization error"

end Fault

end Conveyor
