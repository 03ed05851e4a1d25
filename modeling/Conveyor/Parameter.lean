import Conveyor.Expression
import Conveyor.Failure

namespace Conveyor

/-- A parameter of a placed node: a fixed value, or an expression evaluated for each item. -/
inductive Parameter
  | literal (value : Json)
  | expression (source : String)

namespace Parameter

/-- In a document a text that starts with an equals sign is an expression. -/
def ofJson : Json → Parameter
  | .str s =>
    match s.toList with
    | '=' :: source => expression (String.ofList source)
    | _ => literal (.str s)
  | value => literal value

def toJson : Parameter → Json
  | literal value => value
  | expression source => .str ("=" ++ source)

def resolve (item : Json) (index : Nat) : Parameter → Except Failure Json
  | literal value => .ok value
  | expression source =>
    match Expression.evaluate source item index with
    | .ok value => .ok value
    | .error e => .error (.expression e.message)

end Parameter

end Conveyor
