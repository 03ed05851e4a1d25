import Conveyor.Http.Domain
import Conveyor.Text.Percent

namespace Conveyor.Http.Host

def radix (part : List Char) : Nat × List Char :=
  match part with
  | '0' :: 'x' :: rest => (16, rest)
  | '0' :: rest => if rest.isEmpty then (10, part) else (8, rest)
  | _ => (10, part)

def value? (base : Nat) (digits : List Char) : Option Nat :=
  digits.foldlM (fun n c => do
    let d ← Text.Hex.digit? c
    if d < base then some (n * base + d) else none) 0

/-- A part of a numeric address: decimal, octal behind a zero, hexadecimal behind 0x. -/
def number? (part : List Char) : Option Nat :=
  let (base, digits) := radix part
  if part.isEmpty then none else value? base digits

/-- A dot at the end does not count. -/
def parts (domain : List Char) : List (List Char) :=
  let found := domain.splitOn '.'
  if found.getLast? = some [] ∧ 1 < found.length then found.dropLast else found

def endsInNumber (domain : List Char) : Bool :=
  match (parts domain).getLast? with
  | some last =>
    (!last.isEmpty && last.all fun c => '0' ≤ c && c ≤ '9')
      || (last.take 2 = ['0', 'x'] && (number? last).isSome)
  | none => false

/-- At most four parts. The last one fills the bytes that are left. -/
def ipv4? (domain : List Char) : Option Nat := do
  let numbers ← (parts domain).mapM number?
  match numbers.reverse with
  | [] => none
  | last :: before =>
    let count := before.length
    if 3 < count ∨ before.any (255 < ·) ∨ Nat.pow 256 (4 - count) ≤ last then none
    else some (before.reverse.zipIdx.foldl (fun sum (n, i) => sum + n * Nat.pow 256 (3 - i)) last)

def ipv4Text (n : Nat) : String :=
  String.intercalate "." ([n >>> 24, (n >>> 16) % 256, (n >>> 8) % 256, n % 256].map toString)

/-- Groups of one to four hexadecimal digits; the last one may be a dotted address. -/
def groups? (part : List Char) (final : Bool) : Option (List Nat) :=
  if part.isEmpty then some []
  else
    let pieces := part.splitOn ':'
    let head := pieces.dropLast
    let last := pieces.getLastD []
    let group (piece : List Char) : Option Nat :=
      if 1 ≤ piece.length ∧ piece.length ≤ 4 then value? 16 piece else none
    do
      let before ← head.mapM group
      if final && last.contains '.' then
        let bytes := last.splitOn '.'
        if bytes.length = 4
            ∧ bytes.all fun b => !b.isEmpty && (b = ['0'] || b.head? ≠ some '0') then
          let numbers ← bytes.mapM (value? 10)
          if numbers.any (255 < ·) then none
          else
            match numbers with
            | [a, b, c, d] => return before ++ [a * 256 + b, c * 256 + d]
            | _ => none
        else none
      else return before ++ [← group last]

/-- Splits at the first double colon. -/
def gap? : List Char → Option (List Char × List Char)
  | ':' :: ':' :: rest => some ([], rest)
  | c :: rest => (gap? rest).map fun (before, after) => (c :: before, after)
  | [] => none

def ipv6? (cs : List Char) : Option (List Nat) :=
  match gap? cs with
  | none => do
    let found ← groups? cs true
    if found.length = 8 then some found else none
  | some (before, after) => do
    let first ← groups? before false
    let last ← groups? after true
    if first.length + last.length ≤ 7 then
      some (first ++ List.replicate (8 - first.length - last.length) 0 ++ last)
    else none

def hexText (n : Nat) : String := String.ofList (Nat.toDigits 16 n)

/-- Where the longest run of at least two zeros starts, and its length. -/
def longestGap (groups : List Nat) : Nat × Nat :=
  (List.range groups.length).foldl (fun best start =>
    let length := ((groups.drop start).takeWhile (· = 0)).length
    if 2 ≤ length ∧ best.2 < length then (start, length) else best) (0, 0)

def ipv6Text (groups : List Nat) : String :=
  let (start, length) := longestGap groups
  let joined (part : List Nat) := String.intercalate ":" (part.map hexText)
  if length = 0 then "[" ++ joined groups ++ "]"
  else "[" ++ joined (groups.take start) ++ "::" ++ joined (groups.drop (start + length)) ++ "]"

/-- A host of a web address, in lower case; numeric addresses in their usual form. -/
def special? (cs : List Char) : Option String :=
  match cs with
  | '[' :: rest =>
    if rest.getLast? = some ']' then ipv6Text <$> ipv6? rest.dropLast else none
  | _ => do
    let decoded ← String.fromUTF8? ⟨(Text.Percent.decode cs).toArray⟩
    let domain ← Domain.ascii? decoded.toList
    if domain.isEmpty then none
    else if endsInNumber domain then ipv4Text <$> ipv4? domain
    else some (String.ofList domain)

/-- Characters that no other host may hold either; a percent sign may. -/
def isOpaqueForbidden (c : Char) : Bool :=
  c = '\x00' || c ∈ "\t\n\r #/:<>?@[\\]^|".toList

/-- A host of any other address keeps its spelling. -/
def opaque? (cs : List Char) : Option String :=
  match cs with
  | '[' :: rest =>
    if rest.getLast? = some ']' then ipv6Text <$> ipv6? rest.dropLast else none
  | _ =>
    if cs.any isOpaqueForbidden then none else some (String.ofList (Text.Percent.encode [] cs))

end Conveyor.Http.Host
