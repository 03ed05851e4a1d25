import Conveyor.Text.Hex

namespace Conveyor

/-- A 128-bit identifier. -/
structure Uuid where
  value : Nat
deriving DecidableEq

namespace Uuid

/-- The hexadecimal digits of the lowest `count` groups of four bits, highest first. -/
def hex (n : Nat) : Nat → List Char
  | 0 => []
  | count + 1 => hex (n / 16) count ++ [Text.Hex.digit (n % 16)]

/-- Lower-case digits in groups of 8, 4, 4, 4 and 12. -/
def text (id : Uuid) : String :=
  let ds := hex id.value 32
  let group (start length : Nat) := String.ofList ((ds.drop start).take length)
  String.intercalate "-" [group 0 8, group 8 4, group 12 4, group 16 4, group 20 12]

def ofDigits? (cs : List Char) : Option Uuid := do
  if cs.length = 32 then
    let digits ← cs.mapM Text.Hex.digit?
    return ⟨digits.foldl (fun n d => n * 16 + d) 0⟩
  else none

def ofGroups? (cs : List Char) : Option Uuid :=
  match cs.splitOn '-' with
  | [a, b, c, d, e] =>
    if [a, b, c, d, e].map List.length = [8, 4, 4, 4, 12] then ofDigits? (a ++ b ++ c ++ d ++ e)
    else none
  | _ => none

/-- Digits and letters in any case: 32 in a row, or in groups, which may stand in braces or
behind a URN head. -/
def ofText? (text : String) : Option Uuid :=
  let cs := text.toList
  if cs.length = 32 then ofDigits? cs
  else if cs.length = 36 then ofGroups? cs
  else if cs.length = 38 ∧ cs.head? = some '\x7b' ∧ cs.getLast? = some '\x7d' then
    ofGroups? (cs.drop 1).dropLast
  else if (cs.take 9).map Char.toLower = "urn:uuid:".toList then ofGroups? (cs.drop 9)
  else none

end Uuid

end Conveyor
