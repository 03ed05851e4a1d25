import Conveyor.Workflow
import Conveyor.Fault

namespace Conveyor

/-- A checked graph. Nodes go by their position among the declared ones; the edges keep
their order, and parallel ones stay apart. -/
structure Plan where
  size : Nat
  edges : List (Nat × Nat)

namespace Plan

/-- How many edges lead to a position. -/
def inDegree (plan : Plan) (position : Nat) : Nat := plan.edges.countP (·.2 = position)

def inDegrees (plan : Plan) : List Nat := (List.range plan.size).map plan.inDegree

/-- Where the edges of a position lead, one entry per edge. -/
def successors (plan : Plan) (position : Nat) : List Nat :=
  (plan.edges.filter (·.1 = position)).map Prod.snd

def isStart (plan : Plan) (position : Nat) : Bool :=
  position < plan.size && plan.inDegree position = 0

def startNodes (plan : Plan) : List Nat := (List.range plan.size).filter plan.isStart

end Plan

/-- Where a run stands among the positions of a plan. -/
structure Agenda where
  /-- inbound edges whose source has not been processed, by position -/
  waiting : List Nat
  ready : List Nat
  processed : List Nat := []

namespace Agenda

def start (plan : Plan) : Agenda := { waiting := plan.inDegrees, ready := plan.startNodes }

def ascending (positions : List Nat) : List Nat := positions.mergeSort

/-- Counts one edge as served. What then waits for nothing has become ready. -/
def serve (waiting : List Nat) (position : Nat) : List Nat × List Nat :=
  let left := waiting.getD position 0 - 1
  (waiting.set position left, if left = 0 then [position] else [])

def serveAll (waiting : List Nat) : List Nat → List Nat × List Nat
  | [] => (waiting, [])
  | position :: rest =>
    let (waiting, newly) := serve waiting position
    let (waiting, later) := serveAll waiting rest
    (waiting, newly ++ later)

/-- Takes the position that became ready first. What becomes ready with it joins the queue
in declared order. -/
def next? (plan : Plan) (agenda : Agenda) : Option (Nat × Agenda) :=
  match agenda.ready with
  | [] => none
  | position :: ready =>
    let (waiting, newly) := serveAll agenda.waiting (plan.successors position)
    some (position,
      { waiting, ready := ready ++ ascending newly, processed := agenda.processed ++ [position] })

def follow (plan : Plan) : Nat → Agenda → Agenda
  | 0, agenda => agenda
  | steps + 1, agenda =>
    match agenda.next? plan with
    | none => agenda
    | some (_, agenda) => follow plan steps agenda

end Agenda

namespace Plan

/-- The positions in the order they are processed. A position on a cycle, or behind one,
never becomes ready. -/
def schedule (plan : Plan) : List Nat := ((Agenda.start plan).follow plan plan.size).processed

/-- Drops the positions that lead to none of those left, in as many rounds as given. -/
def shed (plan : Plan) : Nat → List Nat → List Nat
  | 0, left => left
  | rounds + 1, left =>
    plan.shed rounds (left.filter fun position => (plan.successors position).any (· ∈ left))

/-- Whether something depends on itself. A position on a cycle is never dropped. -/
def isCyclic (plan : Plan) : Bool := !(plan.shed plan.size (List.range plan.size)).isEmpty

/-- The first id that an earlier node has too. -/
def duplicate? (seen : List String) : List String → Option String
  | [] => none
  | id :: rest => if id ∈ seen then some id else duplicate? (seen ++ [id]) rest

def endpoint (ids : List String) (index : Nat) (role id : String) : Except Fault Nat :=
  match ids.idxOf? id with
  | some position => .ok position
  | none => .error (.invalidConnection s!"edge {index} references unknown {role} '{id}'")

def resolveEdges (ids : List String) (index : Nat) : List Edge → Except Fault (List (Nat × Nat))
  | [] => .ok []
  | edge :: rest => do
    let source ← endpoint ids index "source" edge.source
    let destination ← endpoint ids index "destination" edge.destination
    return (source, destination) :: (← resolveEdges ids (index + 1) rest)

/-- Ids are unique, edges connect declared nodes, and nothing depends on itself. -/
def build (workflow : Workflow) : Except Fault Plan := do
  let ids := workflow.nodes.map Placed.id
  if let some id := duplicate? [] ids then throw (.duplicateNode id)
  let plan : Plan := { size := ids.length, edges := ← resolveEdges ids 0 workflow.edges }
  if plan.isCyclic then throw .cyclicWorkflow
  if plan.size ≠ 0 ∧ plan.startNodes = [] then throw .noStartNode
  return plan

end Plan

end Conveyor
