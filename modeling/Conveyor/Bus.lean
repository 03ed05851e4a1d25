import Conveyor.Event

namespace Conveyor

/-- A broadcast of events. Subscribers read at their own pace; only the newest events are kept
for those that are slow. -/
structure Bus where
  /-- how many events are kept, a power of two -/
  capacity : Nat
  /-- all events, the oldest first -/
  sent : List Event := []

/-- How many events were sent before the one a subscriber reads next. -/
structure Cursor where
  position : Nat
deriving DecidableEq

inductive Received
  | event (event : Event)
  /-- so many events are lost -/
  | lagged (count : Nat)
  | empty

namespace Bus

/-- The least power of two that is not smaller, at least one. -/
def roundUp (n : Nat) : Nat := if n ≤ 1 then 1 else 1 <<< ((n - 1).log2 + 1)

def new (capacity : Nat) : Bus := { capacity := roundUp capacity }

def emit (event : Event) (bus : Bus) : Bus := { bus with sent := bus.sent ++ [event] }

def emitAll (events : List Event) (bus : Bus) : Bus :=
  events.foldl (fun bus event => bus.emit event) bus

/-- A subscriber gets what is sent from now on. -/
def subscribe (bus : Bus) : Cursor := ⟨bus.sent.length⟩

/-- The next event. A subscriber that fell behind is told so once and goes on with the oldest
event kept. -/
def receive (cursor : Cursor) (bus : Bus) : Received × Cursor :=
  let oldest := bus.sent.length - bus.capacity
  if cursor.position < oldest then (.lagged (oldest - cursor.position), ⟨oldest⟩)
  else
    match bus.sent[cursor.position]? with
    | some event => (.event event, ⟨cursor.position + 1⟩)
    | none => (.empty, cursor)

end Bus

end Conveyor
