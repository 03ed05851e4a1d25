namespace Conveyor.Text.Utf8

def isTail (b : UInt8) : Bool := 0x80 ≤ b && b ≤ 0xbf

/-- Whether a second byte may follow a lead byte of two to four bytes. -/
def follows (lead second : UInt8) : Bool :=
  if 0xc2 ≤ lead && lead ≤ 0xdf then isTail second
  else if lead = 0xe0 then 0xa0 ≤ second && second ≤ 0xbf
  else if lead = 0xed then 0x80 ≤ second && second ≤ 0x9f
  else if 0xe1 ≤ lead && lead ≤ 0xef then isTail second
  else if lead = 0xf0 then 0x90 ≤ second && second ≤ 0xbf
  else if lead = 0xf4 then 0x80 ≤ second && second ≤ 0x8f
  else if 0xf1 ≤ lead && lead ≤ 0xf3 then isTail second
  else false

/-- How many bytes a lead byte announces. -/
def announced (lead : UInt8) : Nat :=
  if lead < 0xe0 then 2 else if lead < 0xf0 then 3 else 4

def replacement : Char := '\ufffd'

/-- The value of a whole sequence: the lead byte's payload, then six bits a byte. -/
def scalar (lead : UInt8) (tail : List UInt8) : Char :=
  let head := lead.toNat % (1 <<< (6 - tail.length))
  Char.ofNat (tail.foldl (fun n b => n * 64 + b.toNat % 64) head)

/-- The longest start of a sequence that the bytes allow, behind its lead byte. -/
def run (lead : UInt8) : List UInt8 → List UInt8
  | [] => []
  | second :: rest =>
    if follows lead second then second :: (rest.take (announced lead - 2)).takeWhile isTail else []

/-- What is no UTF-8 is replaced, one character for each broken sequence. -/
def decode : List UInt8 → List Char
  | [] => []
  | b :: rest =>
    if b < 0x80 then Char.ofNat b.toNat :: decode rest
    else
      let tail := run b rest
      have : rest.length - tail.length < rest.length + 1 := by omega
      if tail.length + 1 = announced b then scalar b tail :: decode (rest.drop tail.length)
      else replacement :: decode (rest.drop tail.length)
termination_by bytes => bytes.length
decreasing_by all_goals simp only [List.length_cons, List.length_drop]; omega

/-- A byte order mark at the beginning does not belong to the text. -/
def text (bytes : List UInt8) : String :=
  String.ofList <| decode <|
    match bytes with
    | 0xef :: 0xbb :: 0xbf :: rest => rest
    | bytes => bytes

def encode (s : String) : List UInt8 := s.toUTF8.data.toList

end Conveyor.Text.Utf8
