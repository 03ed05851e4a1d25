import Conveyor.Json

namespace Conveyor

/-- What a text spells, before it is decided which parts are used. Numbers without a value
and texts that are no Unicode stay in the tree: they only matter where they are read.
Fields keep their order and their repetitions. -/
inductive Tree
  | null
  | bool (b : Bool)
  | num (n : Option Number)
  | str (s : Option String)
  | arr (items : List Tree)
  | obj (fields : List (Option String × Tree))

namespace Tree

/-- How many arrays and objects may still be entered. None: any number. -/
abbrev Levels := Option Nat

/-- A text may nest this deep. -/
def textLevels : Levels := some 127

def enter : Levels → Option Levels
  | none => some none
  | some 0 => none
  | some (n + 1) => some (some n)

mutual

/-- A value of free form. Of repeated fields the last wins. -/
def toJson? (levels : Levels) : Tree → Option Json
  | null => some .null
  | bool b => some (.bool b)
  | num n => n.map .num
  | str s => s.map .str
  | arr items => do
    let inner ← enter levels
    return .arr (← itemsToJson? inner items)
  | obj fields => do
    let inner ← enter levels
    return .ofFields (← fieldsToJson? inner fields)

def itemsToJson? (levels : Levels) : List Tree → Option (List Json)
  | [] => some []
  | item :: rest => do
    let value ← item.toJson? levels
    return value :: (← itemsToJson? levels rest)

def fieldsToJson? (levels : Levels) : List (Option String × Tree) → Option (List (String × Json))
  | [] => some []
  | (name, value) :: rest => do
    let name ← name
    let value ← value.toJson? levels
    return (name, value) :: (← fieldsToJson? levels rest)

end

mutual

def ofJson : Json → Tree
  | .null => null
  | .bool b => bool b
  | .num n => num (some n)
  | .str s => str (some s)
  | .arr items => arr (ofItems items)
  | .obj fields => obj (ofFields fields)

def ofItems : List Json → List Tree
  | [] => []
  | item :: rest => ofJson item :: ofItems rest

def ofFields : List (String × Json) → List (Option String × Tree)
  | [] => []
  | (name, value) :: rest => (some name, ofJson value) :: ofFields rest

end

def isNull : Tree → Bool
  | null => true
  | _ => false

end Tree

end Conveyor
