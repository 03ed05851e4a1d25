namespace Conveyor.Text.Hex

/-- The lower-case digit of four bits. -/
def digit (n : Nat) : Char := (Nat.toDigits 16 n).headD '0'

/-- Digits are read in either case. -/
def digit? (c : Char) : Option Nat :=
  if '0' ≤ c ∧ c ≤ '9' then some (c.toNat - '0'.toNat)
  else if 'a' ≤ c ∧ c ≤ 'f' then some (c.toNat - 'a'.toNat + 10)
  else if 'A' ≤ c ∧ c ≤ 'F' then some (c.toNat - 'A'.toNat + 10)
  else none

end Conveyor.Text.Hex
