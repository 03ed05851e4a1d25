namespace Conveyor

/-- Why one item of one node failed. A failure stays within its node: it becomes an item. -/
inductive Failure
  | missingParameter (name : String)
  | typeMismatch (name expected actual : String)
  | expression (reason : String)
  | missingCollaborator (name : String)
  | execution (reason : String)
  | http (reason : String)
  | paymentMismatch (field expected actual : String)
  | paymentRejected (reason : String)
  | timeout (millis : Nat)
  | cancelled
deriving DecidableEq

namespace Failure

/-- A stable tag, carried by error items. -/
def kind : Failure → String
  | missingParameter _ => "missing_required_parameter"
  | typeMismatch .. => "parameter_type_mismatch"
  | expression _ => "expression"
  | missingCollaborator _ => "missing_collaborator"
  | execution _ => "execution_failed"
  | http _ => "http"
  | paymentMismatch .. => "payment_requirement_mismatch"
  | paymentRejected _ => "payment_rejected"
  | timeout _ => "timeout"
  | cancelled => "cancelled"

def message : Failure → String
  | missingParameter name => s!"Missing required parameter: {name}"
  | typeMismatch name expected actual =>
    s!"Invalid type for parameter '{name}': expected {expected}, got {actual}"
  | expression reason => s!"Expression error: {reason}"
  | missingCollaborator name => s!"Missing collaborator: {name}"
  | execution reason => s!"Execution failed: {reason}"
  | http reason => s!"HTTP error: {reason}"
  | paymentMismatch field expected actual =>
    s!"Payment requirement mismatch on '{field}': expected {expected}, got {actual}"
  | paymentRejected reason => s!"Payment rejected: {reason}"
  | timeout millis => s!"Timeout after {millis}ms"
  | cancelled => "Cancelled"

end Failure

end Conveyor
