import Conveyor.Json

namespace Conveyor

/-- A number as it is spelled, its digits from the left. -/
structure Numeral where
  negative : Bool
  whole : List Nat
  fraction : Option (List Nat)
  exponent : Option Int

namespace Numeral

/-- Takes digits while the significand fits in 64 bits; the rest is left over. -/
def fit (significand : Nat) : List Nat → Nat × List Nat
  | [] => (significand, [])
  | d :: rest =>
    if significand * 10 + d < 1 <<< 64 then fit (significand * 10 + d) rest
    else (significand, d :: rest)

/-- The largest power of ten that divides or multiplies in one step. -/
def maxPower : Nat := 308

def powerOfTen (n : Nat) : Float := Float.ofScientific 1 false n

def shrink (x : Float) (places : Nat) : Float :=
  if places ≤ maxPower then x / powerOfTen places
  else if x == 0 then x
  else shrink (x / powerOfTen maxPower) (places - maxPower)
termination_by places
decreasing_by simp only [maxPower] at *; omega

/-- The significand as a double, times or divided by a power of ten as a double. Each
of the two steps rounds, so long numerals may miss the nearest double by one.
None where the result would be infinite. -/
def scale (significand : Nat) (exponent : Int) : Option Float :=
  let x := significand.toUInt64.toFloat
  if exponent < 0 then some (shrink x exponent.natAbs)
  else if exponent ≤ maxPower then
    let y := x * powerOfTen exponent.natAbs
    if y.isInf then none else some y
  else if x == 0 then some x
  else none

def signed (negative : Bool) (x : Float) : Float := if negative then -x else x

/-- Integers in `-2^63 ≤ n < 2^64` are exact, all else is a double; so is a negative zero.
Digits that no longer fit raise the exponent before the point and are dropped behind it. -/
def value? (numeral : Numeral) : Option Number :=
  let (significand, excess) := fit 0 numeral.whole
  match numeral.fraction, numeral.exponent, excess with
  | none, none, [] =>
    if !numeral.negative then some (.int significand)
    else if significand = 0 ∨ 1 <<< 63 < significand then
      some (.real (-significand.toUInt64.toFloat))
    else some (.int (-significand))
  | fraction, exponent, excess =>
    let fraction := fraction.getD []
    let (significand, dropped) := fit significand fraction
    let places : Int := excess.length - (fraction.length - dropped.length : Nat)
    (scale significand (places + exponent.getD 0)).map fun x => .real (signed numeral.negative x)

end Numeral

end Conveyor
