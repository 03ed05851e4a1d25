import Conveyor.Bus
import Conveyor.Executor
import Conveyor.Json.Reader
import Conveyor.Json.Record
import Conveyor.World

namespace Conveyor

structure Config where
  eventBufferSize : Nat := 1000
  itemTimeout : Option Nat := none

namespace Config

def toJson (config : Config) : Json :=
  .ofFields
    [("event_buffer_size", .nat config.eventBufferSize),
      ("item_timeout_ms",
        match config.itemTimeout with
        | some millis => .nat millis
        | none => .null)]

def ofTree? (levels : Tree.Levels) (tree : Tree) : Option Config := do
  let _ ← Tree.enter levels
  let slots ← tree.slots? ["event_buffer_size", "item_timeout_ms"]
  match slots.given with
  | [eventBufferSize, itemTimeout] =>
    return {
      eventBufferSize := ← Tree.orElse (Tree.unsigned? 64) 1000 eventBufferSize
      itemTimeout := ← Tree.optional (Tree.unsigned? 64) itemTimeout }
  | _ => none

def ofText (text : String) : Except Fault Config :=
  match (Tree.ofText? text).bind (ofTree? Tree.textLevels) with
  | some config => .ok config
  | none => .error .serialization

end Config

/-- Workflows, the means to run them, and the bus that hears of every run. -/
structure Engine where
  executor : Executor
  bus : Bus
  workflows : Table Workflow := .empty

namespace Engine

def new (registry : Registry) (config : Config) (capabilities : Capabilities) : Engine :=
  { executor := { registry, capabilities, itemTimeout := config.itemTimeout }
    bus := .new config.eventBufferSize }

/-- A second workflow with an id replaces the first. -/
def register (workflow : Workflow) (engine : Engine) : Engine :=
  { engine with workflows := engine.workflows.insert workflow.id workflow }

/-- The events of what was told, in the order it was told. -/
def events (id : Uuid) (w : World) : List Event := w.past.reverse.filterMap (Happening.event? id)

/-- Runs a workflow in a world without a past. What its sink was told is on the bus afterwards. -/
def execute (engine : Engine) (w : World) (id : Uuid) (workflow : Workflow)
    (trigger : Option (List Item)) : Ending (Except Fault Result) × World × Engine :=
  let (ending, w) := RunWork.perform w (engine.executor.execute id workflow trigger)
  (ending, w, { engine with bus := engine.bus.emitAll (events id w) })

/-- Runs a registered workflow. An unknown id is not heard of on the bus. -/
def executeId (engine : Engine) (w : World) (id : Uuid) (workflow : String) :
    Ending (Except Fault Result) × World × Engine :=
  match engine.workflows.get? workflow with
  | some workflow => engine.execute w id workflow none
  | none => (.returned (.error (.workflowNotFound workflow)), w, engine)

def validate (engine : Engine) (workflow : Workflow) : Except Fault Plan :=
  engine.executor.validate workflow

end Engine

end Conveyor
