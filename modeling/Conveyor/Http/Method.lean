namespace Conveyor.Http

inductive Method
  | get | post | put | patch | delete
deriving DecidableEq

namespace Method

def all : List Method := [get, post, put, patch, delete]

def name : Method → String
  | get => "GET"
  | post => "POST"
  | put => "PUT"
  | patch => "PATCH"
  | delete => "DELETE"

/-- Besides the ASCII letters only a long s and the two st ligatures have upper-case forms
that occur in a method's name. -/
def upper (c : Char) : List Char :=
  if c = 'ſ' then ['S']
  else if c = 'ﬅ' ∨ c = 'ﬆ' then ['S', 'T']
  else [c.toUpper]

/-- A method in any case. -/
def ofName? (name : String) : Option Method :=
  all.find? fun method => method.name.toList = name.toList.flatMap upper

end Method

end Conveyor.Http
