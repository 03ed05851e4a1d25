namespace Conveyor.Decimal

/-- A finite double without its sign: `mantissa * 2 ^ exponent`. Below a power of
two the neighbouring double is half as far away as above it. -/
structure Binary where
  mantissa : Nat
  exponent : Int
  powerOfTwo : Bool
deriving DecidableEq

def Binary.ofFloat (x : Float) : Binary :=
  let bits := x.toBits.toNat
  let field : Nat := (bits >>> 52) % (1 <<< 11)
  let fraction := bits % (1 <<< 52)
  if field = 0 then ⟨fraction, -1074, false⟩
  else ⟨1 <<< 52 + fraction, (field : Int) - 1075, fraction = 0 && field ≠ 1⟩

/-- `digits * 10 ^ exponent`. -/
structure Digits where
  digits : Nat
  exponent : Int
deriving DecidableEq

/-- Numerator and denominator of `2 ^ binary / 10 ^ decimal`. -/
def grid (binary decimal : Int) : Nat × Nat :=
  (Nat.pow 2 binary.toNat * Nat.pow 10 (-decimal).toNat,
    Nat.pow 2 (-binary).toNat * Nat.pow 10 decimal.toNat)

/-- Whether a decimal lies among the reals that round to the double. The ends belong
to the double exactly when its mantissa is even. -/
def Binary.readsBack (x : Binary) (d : Digits) : Bool :=
  let (u, v) := grid x.exponent d.exponent
  let low := (4 * x.mantissa - if x.powerOfTwo then 1 else 2) * u
  let high := (4 * x.mantissa + 2) * u
  let mid := 4 * d.digits * v
  if x.mantissa % 2 = 0 then low ≤ mid && mid ≤ high else low < mid && mid < high

/-- The multiple of a power of ten nearest to the double among those that read back;
of two equally near ones the even one. -/
def Binary.onGrid (x : Binary) (exponent : Int) : Option Digits :=
  let (u, v) := grid x.exponent exponent
  let below : Digits := ⟨x.mantissa * u / v, exponent⟩
  let above : Digits := ⟨x.mantissa * u / v + 1, exponent⟩
  let lowerFirst := match compare (2 * (x.mantissa * u)) ((2 * below.digits + 1) * v) with
    | .lt => true
    | .gt => false
    | .eq => below.digits % 2 = 0
  let (first, second) := if lowerFirst then (below, above) else (above, below)
  if x.readsBack first then some first
  else if x.readsBack second then some second
  else none

/-- The exact value. -/
def Binary.exact (x : Binary) : Digits :=
  if 0 ≤ x.exponent then ⟨x.mantissa * Nat.pow 2 x.exponent.toNat, 0⟩
  else ⟨x.mantissa * Nat.pow 5 (-x.exponent).toNat, x.exponent⟩

def Binary.search (x : Binary) : Nat → Int → Digits
  | 0, _ => x.exact
  | tries + 1, exponent => (x.onGrid exponent).getD (x.search tries (exponent - 1))

def Digits.strip (d : Digits) : Digits :=
  if h : d.digits ≠ 0 ∧ d.digits % 10 = 0 then
    Digits.strip ⟨d.digits / 10, d.exponent + 1⟩
  else d
termination_by d.digits
decreasing_by omega

/-- The fewest digits that read back as the double, found from coarse grids to fine ones.
The first grid tried lies at or above the double's leading digit. -/
def Binary.shortest (x : Binary) : Digits :=
  if x.mantissa = 0 then ⟨0, 0⟩
  else (x.search 21 ((x.mantissa.log2 + x.exponent + 1) * 30103 / 100000 + 1)).strip

end Conveyor.Decimal
