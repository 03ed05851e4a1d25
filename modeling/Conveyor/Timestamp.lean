import Conveyor.Text.Blank

namespace Conveyor

/-- A day of the Gregorian calendar, which is carried on before its beginning. -/
structure Date where
  year : Int
  month : Nat
  day : Nat
deriving DecidableEq

namespace Date

def isLeap (year : Int) : Bool := year % 4 = 0 && (year % 100 ≠ 0 || year % 400 = 0)

def monthLength (year : Int) (month : Nat) : Nat :=
  if month = 2 then if isLeap year then 29 else 28
  else if month ∈ [4, 6, 9, 11] then 30
  else 31

/-- The years that are counted. -/
def isCounted (year : Int) : Bool := -262143 ≤ year && year ≤ 262142

def make? (year : Int) (month day : Nat) : Option Date :=
  if 1 ≤ month ∧ month ≤ 12 ∧ 1 ≤ day ∧ day ≤ monthLength year month ∧ isCounted year then
    some ⟨year, month, day⟩
  else none

/-- Days since 1970-01-01. Years are counted from March, so that leap days end them. -/
def toDays (date : Date) : Int :=
  let year := if date.month ≤ 2 then date.year - 1 else date.year
  let month := (date.month + 9) % 12
  let era := year / 400
  let ofEra := year % 400
  let ofYear := (153 * month + 2) / 5 + date.day - 1
  era * 146097 + (ofEra * 365 + ofEra / 4 - ofEra / 100 + ofYear) - 719468

def ofDays (days : Int) : Date :=
  let shifted := days + 719468
  let era := shifted / 146097
  let ofEra := shifted % 146097
  let years := (ofEra - ofEra / 1460 + ofEra / 36524 - ofEra / 146096) / 365
  let ofYear := (ofEra - (365 * years + years / 4 - years / 100)).toNat
  let shiftedMonth := (5 * ofYear + 2) / 153
  let day := ofYear - (153 * shiftedMonth + 2) / 5 + 1
  let month := (shiftedMonth + 2) % 12 + 1
  ⟨years + era * 400 + (if month ≤ 2 then 1 else 0), month, day⟩

end Date

/-- A moment in UTC. Within a leap second the nanoseconds run on past the second before it. -/
structure Timestamp where
  /-- since 1970-01-01T00:00:00Z -/
  seconds : Int
  nanos : Nat
deriving DecidableEq

namespace Timestamp

def ofMillis (millis : Nat) : Timestamp := ⟨millis / 1000, millis % 1000 * 1000000⟩

/-- At least `width` digits. -/
def padded (width n : Nat) : String :=
  let digits := Nat.toDigits 10 n
  String.ofList (List.replicate (width - digits.length) '0' ++ digits)

def yearText (year : Int) : String :=
  if 0 ≤ year ∧ year ≤ 9999 then padded 4 year.toNat
  else (if year < 0 then "-" else "+") ++ padded 4 year.natAbs

/-- The fewest of 0, 3, 6 and 9 digits that hold the value. -/
def fractionText (nanos : Nat) : String :=
  if nanos = 0 then ""
  else if nanos % 1000000 = 0 then "." ++ padded 3 (nanos / 1000000)
  else if nanos % 1000 = 0 then "." ++ padded 6 (nanos / 1000)
  else "." ++ padded 9 nanos

def date (t : Timestamp) : Date := Date.ofDays (t.seconds / 86400)

def text (t : Timestamp) : String :=
  let date := t.date
  let second := (t.seconds % 86400).toNat
  let leap := t.nanos / 1000000000
  yearText date.year ++ "-" ++ padded 2 date.month ++ "-" ++ padded 2 date.day ++ "T"
    ++ padded 2 (second / 3600) ++ ":" ++ padded 2 (second / 60 % 60) ++ ":"
    ++ padded 2 (second % 60 + leap) ++ fractionText (t.nanos % 1000000000) ++ "Z"

def isDigit (c : Char) : Bool := '0' ≤ c && c ≤ '9'

def numberOf (digits : List Char) : Nat := digits.foldl (fun n c => n * 10 + (c.toNat - '0'.toNat)) 0

/-- One to `most` digits. -/
def digits? (most : Nat) (cs : List Char) : Option (Nat × List Char) :=
  match (cs.take most).takeWhile isDigit with
  | [] => none
  | found => some (numberOf found, cs.drop found.length)

/-- A field of at most two digits, blanks before it. -/
def field? (low high : Nat) (cs : List Char) : Option (Nat × List Char) := do
  let (n, rest) ← digits? 2 (Text.trimLeft cs)
  if low ≤ n ∧ n ≤ high then some (n, rest) else none

/-- Four digits at most; any number of them behind a sign. -/
def year? (cs : List Char) : Option (Int × List Char) :=
  match Text.trimLeft cs with
  | '-' :: rest => do let (n, rest) ← digits? rest.length rest; return (-n, rest)
  | '+' :: rest => do let (n, rest) ← digits? rest.length rest; return (n, rest)
  | cs => do let (n, rest) ← digits? 4 cs; return (n, rest)

/-- A mark between two fields, blanks before it. -/
def mark? (c : Char) (cs : List Char) : Option (List Char) :=
  match Text.trimLeft cs with
  | d :: rest => if d = c then some rest else none
  | [] => none

/-- Digits after the ninth are dropped. -/
def fraction? : List Char → Option (Nat × List Char)
  | '.' :: rest => do
    let (n, after) ← digits? 9 rest
    return (n * Nat.pow 10 (9 - (rest.length - after.length)), after.dropWhile isDigit)
  | cs => some (0, cs)

/-- Hours of two digits, minutes of two digits. -/
def offset? (cs : List Char) : Option (Int × List Char) := do
  let (sign, cs) ← match cs with
    | '+' :: rest => some ((1 : Int), rest)
    | '-' :: rest => some (-1, rest)
    | '\u2212' :: rest => some (-1, rest)
    | _ => none
  match cs with
  | a :: b :: rest =>
    if isDigit a && isDigit b then
      match rest.dropWhile fun c => c = ':' || Text.isBlank c with
      | c :: d :: rest =>
        if isDigit c && isDigit d && c ≤ '5' then
          some (sign * (numberOf [a, b] * 3600 + numberOf [c, d] * 60 : Nat), rest)
        else none
      | _ => none
    else none
  | _ => none

/-- Seconds east of UTC. -/
def zone? (cs : List Char) : Option (Int × List Char) :=
  if (cs.take 3).map Char.toUpper = "UTC".toList then some (0, cs.drop 3)
  else match cs with
    | c :: rest => if c = 'Z' || c = 'z' then some (0, rest) else offset? cs
    | [] => none

/-- Blanks may stand between the fields, and a blank may part date and time. -/
def ofText? (text : String) : Option Timestamp := do
  let (year, rest) ← year? text.toList
  let rest ← mark? '-' rest
  let (month, rest) ← field? 1 12 rest
  let rest ← mark? '-' rest
  let (day, rest) ← field? 1 31 rest
  let rest ← match rest with
    | c :: rest => if c = 'T' || c = 't' || c = ' ' then some rest else none
    | [] => none
  let (hour, rest) ← field? 0 23 rest
  let rest ← mark? ':' rest
  let (minute, rest) ← field? 0 59 rest
  let rest ← mark? ':' rest
  let (second, rest) ← field? 0 60 rest
  let (nanos, rest) ← fraction? rest
  let (offset, rest) ← zone? (Text.trimLeft rest)
  let date ← Date.make? year month day
  let leap := second / 60
  let t : Timestamp :=
    { seconds := date.toDays * 86400 + (hour * 3600 + minute * 60 + (second - leap) : Nat) - offset
      nanos := leap * 1000000000 + nanos }
  if Text.trimLeft rest = [] ∧ offset.natAbs < 86400 ∧ Date.isCounted t.date.year then some t
  else none

end Timestamp

end Conveyor
