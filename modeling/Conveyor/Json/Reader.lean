import Conveyor.Json.Numeral
import Conveyor.Json.Tree

namespace Conveyor.Tree

/-- A piece of a quoted text: a byte as it stands, or a 16-bit unit given by its digits. -/
inductive Piece
  | byte (b : UInt8)
  | unit (n : Nat)

/-- Units above U+FFFF come in pairs, high half first. A half alone has no text. -/
def Piece.bytes? : List Piece → Option (List UInt8)
  | [] => some []
  | .byte b :: rest => (b :: ·) <$> bytes? rest
  | .unit n :: rest =>
    if n < 0xd800 ∨ 0xdfff < n then (String.utf8EncodeChar (Char.ofNat n) ++ ·) <$> bytes? rest
    else if 0xdbff < n then none
    else match rest with
      | .unit m :: rest =>
        if m < 0xdc00 ∨ 0xdfff < m then none
        else
          let c := Char.ofNat (0x10000 + (n - 0xd800) * 0x400 + (m - 0xdc00))
          (String.utf8EncodeChar c ++ ·) <$> bytes? rest
      | _ => none

def Piece.text? (pieces : List Piece) : Option String := do
  String.fromUTF8? ⟨(← bytes? pieces).toArray⟩

def isBlank (b : UInt8) : Bool := b = 0x20 || b = 0x09 || b = 0x0a || b = 0x0d

def skip (bytes : List UInt8) : List UInt8 := bytes.dropWhile isBlank

def isDigit (b : UInt8) : Bool := 0x30 ≤ b && b ≤ 0x39

def digit (b : UInt8) : Nat := b.toNat - 0x30

def digits (bytes : List UInt8) : List Nat := (bytes.takeWhile isDigit).map digit

def afterDigits (bytes : List UInt8) : List UInt8 := bytes.dropWhile isDigit

def hex? (b : UInt8) : Option Nat :=
  if isDigit b then some (digit b)
  else if 0x61 ≤ b && b ≤ 0x66 then some (b.toNat - 0x61 + 10)
  else if 0x41 ≤ b && b ≤ 0x46 then some (b.toNat - 0x41 + 10)
  else none

def unit? (a b c d : UInt8) : Option Nat := do
  return (← hex? a) * 0x1000 + (← hex? b) * 0x100 + (← hex? c) * 0x10 + (← hex? d)

/-- What a backslash and a letter stand for. -/
def escaped? (b : UInt8) : Option UInt8 :=
  if b = 0x22 then some 0x22
  else if b = 0x5c then some 0x5c
  else if b = 0x2f then some 0x2f
  else if b = 0x62 then some 0x08
  else if b = 0x66 then some 0x0c
  else if b = 0x6e then some 0x0a
  else if b = 0x72 then some 0x0d
  else if b = 0x74 then some 0x09
  else none

/-- A quoted text after its opening quote. Control bytes are refused. -/
def pieces (done : List Piece) : List UInt8 → Option (List Piece × List UInt8)
  | [] => none
  | 0x22 :: rest => some (done.reverse, rest)
  | 0x5c :: 0x75 :: a :: b :: c :: d :: rest =>
    match unit? a b c d with
    | some n => pieces (.unit n :: done) rest
    | none => none
  | 0x5c :: e :: rest =>
    match escaped? e with
    | some b => pieces (.byte b :: done) rest
    | none => none
  | b :: rest => if b < 0x20 || b = 0x5c then none else pieces (.byte b :: done) rest

def whole (bytes : List UInt8) : Option (List Nat × List UInt8) :=
  match digits bytes with
  | [] => none
  | 0 :: _ :: _ => none
  | found => some (found, afterDigits bytes)

def fraction : List UInt8 → Option (Option (List Nat) × List UInt8)
  | 0x2e :: rest =>
    match digits rest with
    | [] => none
    | found => some (some found, afterDigits rest)
  | bytes => some (none, bytes)

def magnitude (bytes : List UInt8) : Option (Nat × List UInt8) :=
  match digits bytes with
  | [] => none
  | found => some (found.foldl (fun n d => n * 10 + d) 0, afterDigits bytes)

def exponent : List UInt8 → Option (Option Int × List UInt8)
  | b :: rest =>
    if b = 0x65 || b = 0x45 then
      match rest with
      | 0x2d :: rest => do let (n, rest) ← magnitude rest; return (some (-n), rest)
      | 0x2b :: rest => do let (n, rest) ← magnitude rest; return (some n, rest)
      | rest => do let (n, rest) ← magnitude rest; return (some n, rest)
    else some (none, b :: rest)
  | [] => some (none, [])

def numeral (negative : Bool) (bytes : List UInt8) : Option (Numeral × List UInt8) := do
  let (whole, rest) ← whole bytes
  let (fraction, rest) ← fraction rest
  let (exponent, rest) ← exponent rest
  return (⟨negative, whole, fraction, exponent⟩, rest)

def number (bytes : List UInt8) : Option (Tree × List UInt8) := do
  let (numeral, rest) ← match bytes with
    | 0x2d :: rest => numeral true rest
    | bytes => numeral false bytes
  return (.num numeral.value?, rest)

mutual

def value : Nat → List UInt8 → Option (Tree × List UInt8)
  | 0, _ => none
  | fuel + 1, bytes =>
    match skip bytes with
    | 0x6e :: 0x75 :: 0x6c :: 0x6c :: rest => some (.null, rest)
    | 0x74 :: 0x72 :: 0x75 :: 0x65 :: rest => some (.bool true, rest)
    | 0x66 :: 0x61 :: 0x6c :: 0x73 :: 0x65 :: rest => some (.bool false, rest)
    | 0x22 :: rest => do
      let (text, rest) ← pieces [] rest
      return (.str (Piece.text? text), rest)
    | 0x5b :: rest =>
      match skip rest with
      | 0x5d :: rest => some (.arr [], rest)
      | rest => do
        let (found, rest) ← items fuel rest
        return (.arr found, rest)
    | 0x7b :: rest =>
      match skip rest with
      | 0x7d :: rest => some (.obj [], rest)
      | rest => do
        let (found, rest) ← members fuel rest
        return (.obj found, rest)
    | bytes => number bytes

/-- One or more elements and the closing bracket. -/
def items : Nat → List UInt8 → Option (List Tree × List UInt8)
  | 0, _ => none
  | fuel + 1, bytes => do
    let (first, rest) ← value fuel bytes
    match skip rest with
    | 0x2c :: rest => do
      let (found, rest) ← items fuel rest
      return (first :: found, rest)
    | 0x5d :: rest => some ([first], rest)
    | _ => none

/-- One or more fields and the closing brace. -/
def members : Nat → List UInt8 → Option (List (Option String × Tree) × List UInt8)
  | 0, _ => none
  | fuel + 1, bytes =>
    match skip bytes with
    | 0x22 :: rest => do
      let (name, rest) ← pieces [] rest
      match skip rest with
      | 0x3a :: rest => do
        let (first, rest) ← value fuel rest
        let entry := (Piece.text? name, first)
        match skip rest with
        | 0x2c :: rest => do
          let (found, rest) ← members fuel rest
          return (entry :: found, rest)
        | 0x7d :: rest => some ([entry], rest)
        | _ => none
      | _ => none
    | _ => none

end

/-- Every array, object and element takes at least one byte and at most two steps. -/
def ofBytes? (bytes : List UInt8) : Option Tree := do
  let (tree, rest) ← value (2 * bytes.length + 1) bytes
  if skip rest = [] then some tree else none

def ofText? (text : String) : Option Tree := ofBytes? text.toUTF8.data.toList

end Conveyor.Tree

namespace Conveyor.Json

def ofBytes? (bytes : List UInt8) : Option Json := do
  (← Tree.ofBytes? bytes).toJson? Tree.textLevels

def ofText? (text : String) : Option Json := ofBytes? text.toUTF8.data.toList

end Conveyor.Json
