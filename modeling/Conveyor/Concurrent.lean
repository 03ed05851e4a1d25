import Conveyor.Engine

namespace Conveyor

/-- A run under way: its own surroundings, and what it has left to do in them. -/
structure Underway (α : Type) where
  id : Uuid
  world : World
  work : RunWork α

namespace Underway

/-- Goes on to the next question, and says what happened. None where the run is over, or waits
for something that never comes. -/
def step? (run : Underway α) : Option (Underway α × List Happening) :=
  match run.work with
  | .done _ | .panic _ => none
  | .ask question next =>
    match run.world.answer question with
    | none => none
    | some (reply, w) => some ({ run with world := w, work := next reply }, run.world.since w)

/-- How the run ended, once it has no step left. -/
def ending? (run : Underway α) : Option (Ending α) :=
  match run.work with
  | .done value => some (.returned value)
  | .panic payload => some (.panicked payload)
  | .ask question _ => if (run.world.answer question).isNone then some .stuck else none

end Underway

/-- Runs that share a bus and nothing else. -/
structure Concurrent (α : Type) where
  bus : Bus
  runs : List (Underway α) := []

namespace Concurrent

/-- The run at a place goes one step further; its events go out as it does. -/
def step (place : Nat) (c : Concurrent α) : Concurrent α :=
  match c.runs[place]? with
  | none => c
  | some run =>
    match run.step? with
    | none => c
    | some (run', happened) =>
      { bus := c.bus.emitAll (happened.filterMap (Happening.event? run.id))
        runs := c.runs.set place run' }

/-- One step of the run at each of the places, in turn. -/
def follow (places : List Nat) (c : Concurrent α) : Concurrent α :=
  places.foldl (fun c place => c.step place) c

end Concurrent

/-- A run of a workflow that has not begun. -/
def Engine.prepare (engine : Engine) (w : World) (id : Uuid) (workflow : Workflow)
    (trigger : Option (List Item)) : Underway (Except Fault Result) :=
  { id, world := w, work := engine.executor.execute id workflow trigger }

end Conveyor
