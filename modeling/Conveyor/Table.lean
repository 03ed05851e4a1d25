namespace Conveyor

/-- A finite map from names. Names ascend and occur once in every table made by `insert`. -/
abbrev Table (α : Type) := List (String × α)

namespace Table

def empty : Table α := []

def get? (name : String) : Table α → Option α
  | [] => none
  | (n, v) :: rest => if n = name then some v else get? name rest

def contains (name : String) (table : Table α) : Bool := (table.get? name).isSome

def names (table : Table α) : List String := table.map Prod.fst

/-- A name that is present keeps its place and takes the new value. -/
def insert (name : String) (value : α) : Table α → Table α
  | [] => [(name, value)]
  | (n, v) :: rest =>
    if n = name then (name, value) :: rest
    else if name < n then (name, value) :: (n, v) :: rest
    else (n, v) :: insert name value rest

/-- Of repeated names the last wins. -/
def ofList (entries : List (String × α)) : Table α :=
  entries.foldl (fun table (name, value) => table.insert name value) empty

def mapValues (f : α → β) (table : Table α) : Table β :=
  table.map fun (name, value) => (name, f value)

def Ascending : Table α → Prop
  | [] => True
  | (n, _) :: rest => (∀ m ∈ names rest, n < m) ∧ Ascending rest

end Table

end Conveyor
