import Conveyor.Json.Tree

namespace Conveyor.Tree

def string? : Tree → Option String
  | str s => s
  | _ => none

def bool? : Tree → Option Bool
  | bool b => some b
  | _ => none

/-- Only an integer within its width; `1.0` is none. -/
def unsigned? (width : Nat) : Tree → Option Nat
  | num (some (.int (.ofNat n))) => if n < 1 <<< width then some n else none
  | _ => none

def float? : Tree → Option Float
  | num (some n) => some n.toFloat
  | _ => none

def list? (levels : Levels) (element : Levels → Tree → Option α) : Tree → Option (List α)
  | arr items => do
    let inner ← enter levels
    items.mapM (element inner)
  | _ => none

def table? (levels : Levels) (element : Levels → Tree → Option α) : Tree → Option (Table α)
  | obj fields => do
    let inner ← enter levels
    let entries ← fields.mapM fun (name, value) => do return (← name, ← element inner value)
    return Table.ofList entries
  | _ => none

/-- A choice among bare names, written as the name or as an object with the name alone, over null. -/
def choice? : Tree → Option String
  | str s => s
  | obj [(name, null)] => name
  | _ => none

/-- The fields of a record as they were written, in declaration order. A record may be
written as an object or as an array of its fields. -/
structure Slots where
  positional : Bool
  given : List (Option Tree)

/-- In an object a known field occurs at most once and other fields do not matter;
in an array there is no element without a field. -/
def slots? (names : List String) : Tree → Option Slots
  | arr items =>
    if items.length ≤ names.length then
      some ⟨true, items.map some ++ List.replicate (names.length - items.length) none⟩
    else none
  | obj fields => do
    let named ← fields.mapM fun (name, value) => do return (← name, value)
    if names.all fun name => (named.filter (·.1 = name)).length ≤ 1 then
      some ⟨false, names.map fun name => Table.get? name named⟩
    else none
  | _ => none

/-- A field that must be there. -/
def required (read : Tree → Option α) (slot : Option Tree) : Option α := slot.bind read

/-- A field that takes a value of its own when it is absent. Null does not count as absent. -/
def orElse (read : Tree → Option α) (absent : α) : Option Tree → Option α
  | none => some absent
  | some tree => read tree

/-- A field that may be absent or null. -/
def optional (read : Tree → Option α) : Option Tree → Option (Option α)
  | none => some none
  | some null => some none
  | some tree => some <$> read tree

/-- A field that may be null, or absent from an object, but not from an array. -/
def nullable (positional : Bool) (read : Tree → Option α) : Option Tree → Option (Option α)
  | none => if positional then none else some none
  | slot => optional read slot

end Conveyor.Tree
