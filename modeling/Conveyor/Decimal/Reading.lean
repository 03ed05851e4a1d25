import Conveyor.Text.Unsigned

namespace Conveyor.Decimal

def value (digits : List Nat) : Nat := digits.foldl (fun n d => n * 10 + d) 0

/-- The double nearest to a row of digits, the last of which stands for the given power of ten.
Far outside the range of doubles the digits do not matter. -/
def nearest (digits : List Nat) (exponent : Int) : Float :=
  let digits := digits.dropWhile (· = 0)
  let top := digits.length + exponent
  if digits.isEmpty ∨ top < -400 then 0.0
  else if 400 < top then 1.0 / 0.0
  else Float.ofScientific (value digits) (exponent < 0) exponent.natAbs

def digits (cs : List Char) : List Nat × List Char :=
  let (found, rest) := cs.span fun c => (Text.digit? c).isSome
  (found.filterMap Text.digit?, rest)

/-- Nothing, or an E, perhaps a sign, and at least one digit. -/
def exponent? (cs : List Char) : Option Int :=
  let read (cs : List Char) : Option Nat :=
    match digits cs with
    | (d :: more, []) => some (value (d :: more))
    | _ => none
  match cs with
  | [] => some 0
  | mark :: rest =>
    if mark.toLower = 'e' then
      match rest with
      | '-' :: rest => (read rest).map (-·)
      | '+' :: rest => (read rest).map Int.ofNat
      | rest => (read rest).map Int.ofNat
    else none

/-- Digits with a point before, among or behind them, and perhaps an exponent. -/
def finite? (cs : List Char) : Option Float := do
  let (whole, rest) := digits cs
  let (fraction, rest) := match rest with
    | '.' :: rest => digits rest
    | rest => ([], rest)
  if whole.isEmpty ∧ fraction.isEmpty then none
  else
    some (nearest (whole ++ fraction) ((← exponent? rest) - fraction.length))

def unsigned? (cs : List Char) : Option Float :=
  let name := String.ofList (cs.map Char.toLower)
  if name = "inf" ∨ name = "infinity" then some (1.0 / 0.0)
  else if name = "nan" then some (0.0 / 0.0)
  else finite? cs

/-- A double as it is spelled, with a sign or without one. -/
def ofText? (text : String) : Option Float :=
  match text.toList with
  | '-' :: rest => (unsigned? rest).map (-·)
  | '+' :: rest => unsigned? rest
  | cs => unsigned? cs

end Conveyor.Decimal
