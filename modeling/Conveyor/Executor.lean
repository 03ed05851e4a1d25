import Conveyor.Plan
import Conveyor.Registry
import Conveyor.Run

namespace Conveyor

structure Executor where
  registry : Registry
  capabilities : Capabilities := .none
  /-- milliseconds an attempt may take -/
  itemTimeout : Option Nat := none

/-- Why a run failed, and at which node. -/
structure Fatal where
  node : Option String
  fault : Fault

/-- The nodes that are done, in the order they were run, with their outputs. -/
abbrev Finished := List (String × Ports)

namespace Ports

/-- How many ports there can be room for: each takes 24 bytes, and all of them less than 2^63. -/
def capacity : Nat := (1 <<< 63 - 1) / 24

/-- At least one port. None where there is no room for so many. -/
def blank (count : Nat) : Option Ports :=
  if max count 1 ≤ capacity then some (List.replicate (max count 1) []) else none

def resize (count : Nat) (ports : Ports) : Option Ports :=
  if count ≤ capacity then some (ports.take count ++ List.replicate (count - ports.length) [])
  else none

/-- Makes room for a port. -/
def reach (port : Nat) (ports : Ports) : Option Ports :=
  if ports.length ≤ port then ports.resize (port + 1) else some ports

/-- Adds items behind those of a port. None where there is no such port. -/
def put (port : Nat) (items : List Item) (ports : Ports) : Option Ports :=
  if port < ports.length then some (ports.modify port (· ++ items)) else none

/-- Adds items to a port, making room for it first. -/
def append (port : Nat) (items : List Item) (ports : Ports) : Option Ports :=
  (ports.reach port).bind (put port items)

/-- Merges the outputs that lead to a node. Edges to one port follow each other in declared
order. An output that is not there adds nothing, but there is room for it. -/
def merge (finished : Finished) : List Edge → Ports → Option Ports
  | [], ports => some ports
  | edge :: rest, ports => do
    let ports ← ports.reach edge.destinationPort
    match (Table.get? edge.source finished).bind (·[edge.sourcePort]?) with
    | none => merge finished rest ports
    | some items => merge finished rest (← ports.put edge.destinationPort items)

def collect (workflow : Workflow) (id : String) (inputs : Nat) (finished : Finished) :
    Option Ports :=
  (blank inputs).bind (merge finished (workflow.edges.filter (·.destination = id)))

end Ports

namespace RunWork

/-- A call of a node's setup. Nothing cuts it short. -/
def prepare (node : Node) (ctx : Context) : RunWork (Except Failure Unit) := do
  begin (.setup ctx.nodeId ctx.inputs)
  freely (node.setup ctx)

/-- A call of a node's code for an item. -/
def call (node : Node) (ctx : Context) (limit : Option Nat) (index number : Nat) :
    RunWork (Except Failure Output) := do
  begin (.attempt ctx.nodeId ctx.inputs index number)
  guarded (limit.map Limit.of) (node.run ctx index number)

/-- One attempt at an item. Once the token has fired no call begins. -/
def attempt (node : Node) (ctx : Context) (limit : Option Nat) (index number : Nat) :
    RunWork (Except Failure Output) := do
  if ← isCancelled then return .error .cancelled else call node ctx limit index number

/-- Attempts an item until it succeeds, is cancelled or has used up its attempts. -/
def persist (node : Node) (ctx : Context) (limit : Option Nat) (policy : RetryPolicy) (index : Nat) :
    (number more : Nat) → RunWork (Except Failure Output)
  | number, 0 => attempt node ctx limit index number
  | number, more + 1 => do
    match ← attempt node ctx limit index number with
    | .ok output => return .ok output
    | .error .cancelled => return .error .cancelled
    | .error _ =>
      if ← awaitCancel (some (Node.nap (policy.delayFor number))) then return .error .cancelled
      else persist node ctx limit policy index (number + 1) more

/-- There is at least one attempt, and only one without a policy. -/
def item (node : Node) (ctx : Context) (limit : Option Nat) (policy : Option RetryPolicy)
    (index : Nat) : RunWork (Except Failure Output) :=
  match policy with
  | none => attempt node ctx limit index 1
  | some policy => persist node ctx limit policy index 1 (policy.maxAttempts - 1)

def failureItem (ctx : Context) (e : Failure) (index : Nat) : Item :=
  .failure e (ctx.resolvedParameters index) index

/-- What an item's outcome adds to the output of its node. -/
def contribute (ctx : Context) (index : Nat) (outcome : Except Failure Output) (ports : Ports) :
    Option Ports :=
  match outcome with
  | .ok output =>
    ports.append output.port (output.items.map fun json => (Item.new json).pairedWith index)
  | .error e => ports.append 0 [failureItem ctx e index]

/-- Whether it was the token that ended an item. -/
def abandoned : Except Failure Output → RunWork Bool
  | .error .cancelled => isCancelled
  | _ => return false

/-- Runs the items one after the other. Cancellation leaves no trace of the item it hit. -/
def items (node : Node) (ctx : Context) (limit : Option Nat) (policy : Option RetryPolicy) :
    List Nat → Ports → RunWork (Except Fault Ports)
  | [], ports => return .ok ports
  | index :: rest, ports => do
    if ← isCancelled then return .error .cancelled
    else
      let outcome ← item node ctx limit policy index
      if ← abandoned outcome then return .error .cancelled
      else
        match contribute ctx index outcome ports with
        | some ports => items node ctx limit policy rest ports
        | none => .panic none

/-- The output of a node whose setup failed: an error for every item, or one for none. -/
def setupFailure (ctx : Context) (e : Failure) : List Item :=
  if ctx.itemCount = 0 then [{ failureItem ctx e 0 with pairedItem := none }]
  else (List.range ctx.itemCount).map (failureItem ctx e)

/-- What a node adds to ports for its output once its setup is over. -/
def produce (node : Node) (ctx : Context) (limit : Option Nat) (policy : Option RetryPolicy)
    (ports : Ports) : Except Failure Unit → RunWork (Except Fault Ports)
  | .error e => return .ok (ports.modify 0 (· ++ setupFailure ctx e))
  | .ok () => items node ctx limit policy (List.range ctx.itemCount) ports

def node (node : Node) (ctx : Context) (limit : Option Nat) (policy : Option RetryPolicy) :
    RunWork (Except Fault Ports) :=
  match Ports.blank ctx.description.outputs with
  | none => .panic none
  | some ports => do produce node ctx limit policy ports (← prepare node ctx)

end RunWork

namespace Executor

/-- Every node is made before the first one runs. -/
def assemble (registry : Registry) : List Placed → Except Fatal (List (Placed × Node))
  | [] => .ok []
  | placed :: rest =>
    match registry.create placed with
    | .error fault => .error ⟨some placed.id, fault⟩
    | .ok node => (assemble registry rest).map ((placed, node) :: ·)

/-- What a node is run on: the trigger if nothing leads to it, else what leads to it. -/
def inputs (workflow : Workflow) (plan : Plan) (trigger : List Item) (position : Nat)
    (placed : Placed) (node : Node) (finished : Finished) : Option Ports :=
  if plan.isStart position then some [trigger]
  else Ports.collect workflow placed.id node.description.inputs finished

def context (executor : Executor) (id : Uuid) (placed : Placed) (node : Node) (inputs : Ports) :
    Context :=
  { executionId := id, nodeId := placed.id, description := node.description
    parameters := placed.parameters, inputs, capabilities := executor.capabilities }

/-- Runs the node at a position on what the finished ones have put out. -/
def turn (executor : Executor) (id : Uuid) (workflow : Workflow) (plan : Plan) (trigger : List Item)
    (cast : List (Placed × Node)) (position : Nat) (finished : Finished) :
    RunWork (Except Fatal Finished) := do
  if ← RunWork.isCancelled then return .error ⟨none, .cancelled⟩
  else
    match cast[position]? with
    | none => .panic none
    | some (placed, node) =>
      match inputs workflow plan trigger position placed node finished with
      | none => .panic none
      | some inputs =>
        let ctx := executor.context id placed node inputs
        match ← RunWork.node node ctx executor.itemTimeout placed.retryPolicy with
        | .error fault => return .error ⟨some placed.id, fault⟩
        | .ok output =>
          RunWork.notify (.nodeFinished placed.id placed.type output !output.anyError)
          return .ok (finished ++ [(placed.id, output)])

/-- Runs the nodes at the given positions, one after the other. -/
def follow (executor : Executor) (id : Uuid) (workflow : Workflow) (plan : Plan) (trigger : List Item)
    (cast : List (Placed × Node)) : List Nat → Finished → RunWork (Except Fatal Finished)
  | [], finished => return .ok finished
  | position :: rest, finished => do
    match ← executor.turn id workflow plan trigger cast position finished with
    | .error fatal => return .error fatal
    | .ok finished => executor.follow id workflow plan trigger cast rest finished

def unreached (workflow : Workflow) (finished : Finished) : List String :=
  (workflow.nodes.map Placed.id).filter fun id => !Table.contains id finished

/-- Start nodes get the trigger, which is one empty item where none is given. -/
def drive (executor : Executor) (id : Uuid) (workflow : Workflow) (trigger : Option (List Item))
    (plan : Plan) : RunWork (Except Fatal Finished) := do
  match assemble executor.registry workflow.nodes with
  | .error fatal => return .error fatal
  | .ok cast =>
    match ← executor.follow id workflow plan (trigger.getD [.empty]) cast plan.schedule [] with
    | .error fatal => return .error fatal
    | .ok finished =>
      if finished.length < workflow.nodes.length then
        return .error ⟨none, .unreachable (unreached workflow finished)⟩
      else return .ok finished

end Executor

/-- What a completed run leaves. -/
structure Result where
  executionId : Uuid
  workflowId : String
  finished : Finished
  millis : Nat

namespace Result

def order (result : Result) : List String := result.finished.map Prod.fst

def outputs (result : Result) : Table Ports := .ofList result.finished

def output? (result : Result) (node : String) : Option Ports := Table.get? node result.outputs

/-- The items on a node's first port. -/
def items (result : Result) (node : String) : List Item :=
  ((result.output? node).map (Ports.on 0)).getD []

def hasErrors (result : Result) : Bool := result.outputs.any fun (_, ports) => ports.anyError

end Result

namespace Executor

/-- Plans a workflow and drives it, unless there is no plan for it. -/
def undertake (executor : Executor) (id : Uuid) (workflow : Workflow) (trigger : Option (List Item)) :
    RunWork (Except Fatal Finished) :=
  match Plan.build workflow with
  | .ok plan => executor.drive id workflow trigger plan
  | .error fault => return .error ⟨none, fault⟩

/-- Tells the sink how a run ended. -/
def conclude (id : Uuid) (workflow : Workflow) (started : Nat) (outcome : Except Fatal Finished) :
    RunWork (Except Fault Result) := do
  let millis := (← RunWork.now) - started
  match outcome with
  | .ok finished =>
    RunWork.notify (.completed finished.length (some millis))
    return .ok { executionId := id, workflowId := workflow.id, finished, millis }
  | .error fatal =>
    RunWork.notify (.failed fatal.node fatal.fault.message)
    return .error fatal.fault

/-- Runs a workflow. The sink hears of the start, of every node that is done, and of the end. -/
def execute (executor : Executor) (id : Uuid) (workflow : Workflow) (trigger : Option (List Item)) :
    RunWork (Except Fault Result) := do
  let started ← RunWork.now
  RunWork.notify (.started (some workflow.title))
  let outcome ← executor.undertake id workflow trigger
  conclude id workflow started outcome

/-- Checks a workflow without running it: its graph, and that every node can be made. -/
def validate (executor : Executor) (workflow : Workflow) : Except Fault Plan := do
  let plan ← Plan.build workflow
  let _ ← workflow.nodes.mapM executor.registry.create
  return plan

end Executor

end Conveyor
