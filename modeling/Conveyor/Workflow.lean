import Conveyor.Parameter

namespace Conveyor

/-- How often and how patiently a failed item is tried again. -/
structure RetryPolicy where
  maxAttempts : Nat
  delayMillis : Nat
  backoffMultiplier : Float := 1.0

namespace RetryPolicy

def default : RetryPolicy := { maxAttempts := 3, delayMillis := 1000, backoffMultiplier := 2.0 }

/-- Repeated squaring, which fixes how the product is rounded. -/
def power (done base : Float) (n : Nat) : Float :=
  let done := if n % 2 = 1 then done * base else done
  if n / 2 = 0 then done else power done (base * base) (n / 2)
termination_by n
decreasing_by omega

/-- A 32-bit number read as a signed one. -/
def wrap (n : Nat) : Int := (n : Int).bmod (1 <<< 32)

/-- The exponent of the multiplier before the given retry. -/
def exponent (retry : Nat) : Int := wrap (retry - 1)

def factor (multiplier : Float) (exponent : Int) : Float :=
  let r := power 1.0 multiplier exponent.natAbs
  if exponent < 0 then 1.0 / r else r

/-- Multipliers below one, and NaN, count as one. -/
def multiplier (policy : RetryPolicy) : Float :=
  if 1.0 < policy.backoffMultiplier then policy.backoffMultiplier else 1.0

/-- Milliseconds to wait before the given retry, the first being 1. The product is cut to a
whole number that fits in 64 bits. -/
def delayFor (retry : Nat) (policy : RetryPolicy) : Nat :=
  (policy.delayMillis.toUInt64.toFloat * factor policy.multiplier (exponent retry)).toUInt64.toNat

end RetryPolicy

/-- A node placed in a workflow. -/
structure Placed where
  id : String
  type : String
  parameters : Table Parameter := .empty
  retryPolicy : Option RetryPolicy := none

namespace Placed

def withParameter (name : String) (value : Parameter) (node : Placed) : Placed :=
  { node with parameters := node.parameters.insert name value }

def withRetry (maxAttempts delayMillis : Nat) (node : Placed) : Placed :=
  { node with retryPolicy := some { maxAttempts, delayMillis } }

end Placed

/-- Data flows from an output port of one node to an input port of another. -/
structure Edge where
  source : String
  sourcePort : Nat := 0
  destination : String
  destinationPort : Nat := 0
deriving DecidableEq

structure Workflow where
  id : String
  name : Option String := none
  nodes : List Placed := []
  edges : List Edge := []

namespace Workflow

def withName (name : String) (workflow : Workflow) : Workflow := { workflow with name := some name }

def addNode (node : Placed) (workflow : Workflow) : Workflow :=
  { workflow with nodes := workflow.nodes ++ [node] }

def addEdge (edge : Edge) (workflow : Workflow) : Workflow :=
  { workflow with edges := workflow.edges ++ [edge] }

/-- Connects the first ports of two nodes. -/
def connect (source destination : String) : Workflow → Workflow := addEdge { source, destination }

/-- What to call a workflow: its name, or its id where it has none. -/
def title (workflow : Workflow) : String := workflow.name.getD workflow.id

end Workflow

end Conveyor
