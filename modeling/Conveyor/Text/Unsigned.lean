namespace Conveyor.Text

def digit? (c : Char) : Option Nat :=
  if '0' ≤ c ∧ c ≤ '9' then some (c.toNat - '0'.toNat) else none

/-- An unsigned number of at most `width` bits: ASCII digits behind an optional plus,
leading zeros allowed. -/
def unsigned? (width : Nat) (cs : List Char) : Option Nat := do
  let digits ← match cs with
    | '+' :: rest => rest.mapM digit?
    | cs => cs.mapM digit?
  if digits.isEmpty then none
  else
    let n := digits.foldl (fun n d => n * 10 + d) 0
    if n < 1 <<< width then some n else none

end Conveyor.Text
