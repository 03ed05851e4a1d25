namespace Conveyor.Text.Punycode

def symbol (d : Nat) : Char :=
  if d < 26 then Char.ofNat ('a'.toNat + d) else Char.ofNat ('0'.toNat + (d - 26))

def threshold (k bias : Nat) : Nat :=
  if k ≤ bias then 1 else if bias + 26 ≤ k then 26 else k - bias

def adaptLoop (delta k : Nat) : Nat × Nat :=
  if 455 < delta then adaptLoop (delta / 35) (k + 36) else (delta, k)
termination_by delta
decreasing_by omega

def adapt (delta count : Nat) (first : Bool) : Nat :=
  let delta := if first then delta / 700 else delta / 2
  let (delta, k) := adaptLoop (delta + delta / count) 0
  k + 36 * delta / (delta + 38)

theorem threshold_bounds (k bias : Nat) : 1 ≤ threshold k bias ∧ threshold k bias ≤ 26 := by
  unfold threshold
  split
  · omega
  · split <;> omega

/-- A difference in digits of varying weight. -/
def weighted (bias k q : Nat) : List Char :=
  if q < threshold k bias then [symbol q]
  else
    symbol (threshold k bias + (q - threshold k bias) % (36 - threshold k bias))
      :: weighted bias (k + 36) ((q - threshold k bias) / (36 - threshold k bias))
termination_by q
decreasing_by
  have h := threshold_bounds k bias
  exact Nat.lt_of_le_of_lt (Nat.div_le_self _ _) (by omega)

structure Progress where
  out : List Char
  delta : Nat
  bias : Nat
  handled : Nat

def scan (basic code : Nat) (p : Progress) (c : Char) : Progress :=
  if c.toNat < code then { p with delta := p.delta + 1 }
  else if c.toNat = code then
    { out := p.out ++ weighted p.bias 36 p.delta
      delta := 0
      bias := adapt p.delta (p.handled + 1) (p.handled = basic)
      handled := p.handled + 1 }
  else p

/-- Handles the codes above ASCII in ascending order. -/
def encodeCodes (label : List Char) (basic : Nat) : List Nat → Nat → Progress → Progress
  | [], _, p => p
  | code :: rest, floor, p =>
    let p := { p with delta := p.delta + (code - floor) * (p.handled + 1) }
    let p := label.foldl (scan basic code) p
    encodeCodes label basic rest (code + 1) { p with delta := p.delta + 1 }

def encode (label : List Char) : List Char :=
  let basic := label.filter (·.toNat < 0x80)
  let codes := ((label.map Char.toNat).filter (0x80 ≤ ·)).mergeSort.eraseReps
  let head := if basic.isEmpty then [] else basic ++ ['-']
  (encodeCodes label basic.length codes 0x80 ⟨head, 0, 72, basic.length⟩).out

def value? (c : Char) : Option Nat :=
  if 'a' ≤ c ∧ c ≤ 'z' then some (c.toNat - 'a'.toNat)
  else if 'A' ≤ c ∧ c ≤ 'Z' then some (c.toNat - 'A'.toNat)
  else if '0' ≤ c ∧ c ≤ '9' then some (c.toNat - '0'.toNat + 26)
  else none

/-- Numbers that take more than 32 bits are not read. -/
def fit? (n : Nat) : Option Nat := if n < 1 <<< 32 then some n else none

/-- Adds a difference to a number. -/
def difference? (bias : Nat) : (k weight sum : Nat) → List Char → Option (Nat × List Char)
  | _, _, _, [] => none
  | k, weight, sum, c :: rest => do
    let d ← value? c
    let sum ← fit? (sum + (← fit? (d * weight)))
    if d < threshold k bias then return (sum, rest)
    else difference? bias (k + 36) (← fit? (weight * (36 - threshold k bias))) sum rest

/-- A code point that is a character. -/
def char? (code : Nat) : Option Char :=
  if h : code.isValidChar then some (Char.ofNatAux code h) else none

/-- Each difference leads on to a place and, past the last one, to the next code. There are no
more differences than characters to read them from. -/
def insertions? : (most bias code place : Nat) → (out rest : List Char) → Option (List Char)
  | _, _, _, _, out, [] => some out
  | 0, _, _, _, _, _ :: _ => none
  | most + 1, bias, code, place, out, c :: rest => do
    let (sum, rest) ← difference? bias 36 1 place (c :: rest)
    let count := out.length + 1
    let code ← fit? (code + sum / count)
    let c ← char? code
    insertions? most (adapt (sum - place) count (place = 0)) code (sum % count + 1)
      (out.insertIdx (sum % count) c) rest

/-- What stands before the last dash is taken as it is. A dash in front of all belongs to the
differences. -/
def decode? (cs : List Char) : Option (List Char) :=
  let extended := (cs.reverse.takeWhile (· ≠ '-')).reverse
  let basic := (cs.take (cs.length - extended.length)).dropLast
  let extended := if basic.isEmpty then cs else extended
  insertions? extended.length 72 0x80 0 basic extended

end Conveyor.Text.Punycode
