namespace Conveyor

/-- A computation that asks its surroundings and goes on with what they reply. It may also
break down, with or without a text that says why. -/
inductive Work {Ask : Type} (Reply : Ask → Type) (α : Type) where
  | done (value : α)
  | panic (payload : Option String)
  | ask (question : Ask) (next : Reply question → Work Reply α)

namespace Work

variable {Ask : Type} {Reply : Ask → Type} {α β : Type}

def bind (work : Work Reply α) (f : α → Work Reply β) : Work Reply β :=
  match work with
  | done value => f value
  | panic payload => panic payload
  | ask question next => ask question fun reply => (next reply).bind f

instance : Monad (Work Reply) where
  pure := done
  bind := bind

def question (q : Ask) : Work Reply (Reply q) := ask q done

end Work

end Conveyor
