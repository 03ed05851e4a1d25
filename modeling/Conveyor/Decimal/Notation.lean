import Conveyor.Decimal.Shortest

namespace Conveyor.Decimal

/-- How a real is laid out. The scale of a number is the power of ten of its leading digit. -/
structure Notation where
  /-- scales written without an exponent -/
  leastPlain : Int
  mostPlain : Int
  /-- what follows a number without a fraction -/
  whole : String
  exponentMark : String
  positiveExponent : String

def zeros (n : Nat) : String := String.ofList (List.replicate n '0')

def Notation.plain (style : Notation) (digits : List Char) (scale : Int) : String :=
  if scale < 0 then "0." ++ zeros (-scale - 1).toNat ++ String.ofList digits
  else
    let before := scale.toNat + 1
    if digits.length ≤ before then
      String.ofList digits ++ zeros (before - digits.length) ++ style.whole
    else String.ofList (digits.take before) ++ "." ++ String.ofList (digits.drop before)

def Notation.scientific (style : Notation) (digits : List Char) (scale : Int) : String :=
  String.ofList (digits.take 1)
    ++ (if digits.length ≤ 1 then "" else "." ++ String.ofList (digits.drop 1))
    ++ style.exponentMark
    ++ (if scale < 0 then "-" else style.positiveExponent)
    ++ toString scale.natAbs

def Notation.render (style : Notation) (d : Digits) : String :=
  let digits := Nat.toDigits 10 d.digits
  let scale := d.exponent + digits.length - 1
  if style.leastPlain ≤ scale ∧ scale ≤ style.mostPlain then style.plain digits scale
  else style.scientific digits scale

/-- A finite double, sign first; zero keeps its sign. -/
def Notation.write (style : Notation) (x : Float) : String :=
  (if 1 <<< 63 ≤ x.toBits.toNat then "-" else "") ++ style.render (Binary.ofFloat x).shortest

end Conveyor.Decimal
