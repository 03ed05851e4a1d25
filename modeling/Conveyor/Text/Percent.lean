import Conveyor.Text.Hex
import Conveyor.Text.Utf8

namespace Conveyor.Text.Percent

def byte (b : UInt8) : List Char :=
  ['%', (Hex.digit (b.toNat / 16)).toUpper, (Hex.digit (b.toNat % 16)).toUpper]

/-- Controls and what is not ASCII are always escaped, and so is the given set. -/
def encode (set : List Char) (cs : List Char) : List Char :=
  cs.flatMap fun c =>
    if c.toNat < 0x20 || 0x7f ≤ c.toNat || c ∈ set then (String.utf8EncodeChar c).flatMap byte
    else [c]

/-- A percent sign that no two digits follow stands for itself. -/
def decode : List Char → List UInt8
  | [] => []
  | '%' :: a :: b :: rest =>
    match Hex.digit? a, Hex.digit? b with
    | some x, some y => UInt8.ofNat (x * 16 + y) :: decode rest
    | _, _ => 0x25 :: decode (a :: b :: rest)
  | c :: rest => String.utf8EncodeChar c ++ decode rest
termination_by cs => cs.length

end Conveyor.Text.Percent
