import Conveyor.Table

namespace Conveyor

/-- `1` and `1.0` are different numbers. A value that was read has its integers
in `-2^63 ≤ n < 2^64` and its reals finite. -/
inductive Number
  | int (n : Int)
  | real (x : Float)
deriving DecidableEq

/-- The nearest double; integers of the readable range round half to even. -/
def Number.toFloat : Number → Float
  | .int (.ofNat n) => n.toUInt64.toFloat
  | .int (.negSucc n) => -(n + 1).toUInt64.toFloat
  | .real x => x

inductive Json
  | null
  | bool (b : Bool)
  | num (n : Number)
  | str (s : String)
  | arr (items : List Json)
  | obj (fields : List (String × Json))

namespace Json

instance : Inhabited Json := ⟨null⟩

def nat (n : Nat) : Json := .num (.int n)

/-- What is no number as text, NaN and the infinities, is written as null. -/
def real (x : Float) : Json := if x.isFinite then .num (.real x) else .null

/-- Of repeated names the last wins. -/
def ofFields (fields : List (String × Json)) : Json := .obj (Table.ofList fields)

def get? (name : String) : Json → Option Json
  | .obj fields => Table.get? name fields
  | _ => none

def isNull : Json → Bool
  | .null => true
  | _ => false

def toFloat? : Json → Option Float
  | .num n => some n.toFloat
  | _ => none

def toBool? : Json → Option Bool
  | .bool b => some b
  | _ => none

def toString? : Json → Option String
  | .str s => some s
  | _ => none

/-- The name of a value's type, as messages spell it. -/
def typeName : Json → String
  | .null => "null"
  | .bool _ => "boolean"
  | .num _ => "number"
  | .str _ => "string"
  | .arr _ => "array"
  | .obj _ => "object"

end Json

end Conveyor
