import Conveyor.Run
import Conveyor.Timestamp
import Conveyor.World

namespace Conveyor

/-- What an event says of its run. -/
inductive Occurrence
  | workflowStarted (workflow : Option String)
  | nodeFinished (node type : String) (items errors : Nat) (success : Bool)
  | workflowCompleted (nodes : Nat) (millis : Option Nat)
  | workflowFailed (node : Option String) (error : String)
deriving DecidableEq

structure Event where
  executionId : Uuid
  occurrence : Occurrence
  timestamp : Timestamp
deriving DecidableEq

/-- A notice as its event puts it: of a node's output only the counts are left. -/
def Notice.occurrence : Notice → Occurrence
  | started title => .workflowStarted title
  | nodeFinished node type output success =>
    .nodeFinished node type output.all.length (output.all.countP Item.isError) success
  | completed nodes millis => .workflowCompleted nodes millis
  | failed node message => .workflowFailed node message

/-- The event of something the sink heard of. An error that a node reports looks like the
failure of its run. -/
def Happening.event? (id : Uuid) : Happening → Option Event
  | told clock notice => some ⟨id, notice.occurrence, .ofMillis clock⟩
  | reported clock node message => some ⟨id, .workflowFailed node message, .ofMillis clock⟩
  | _ => none

end Conveyor
