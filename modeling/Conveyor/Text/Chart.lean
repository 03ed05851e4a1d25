import Conveyor.Text.Hex

namespace Conveyor.Text

/-- Code points in a row, and what a table notes on them. -/
structure Chart.Entry where
  first : Nat
  last : Nat
  note : List Char

/-- A table over code points, in ascending order. -/
structure Chart where
  entries : Array Chart.Entry

namespace Chart

def number (digits : List Char) : Nat :=
  digits.foldl (fun n c => n * 16 + (Hex.digit? c).getD 0) 0

/-- One code point or two with a dash between them, in hexadecimal, and then the note, which
does not start with a digit. -/
def Entry.ofWord (word : List Char) : Entry :=
  let (first, rest) := word.span fun c => (Hex.digit? c).isSome
  match rest with
  | '-' :: rest =>
    let (last, note) := rest.span fun c => (Hex.digit? c).isSome
    ⟨number first, number last, note⟩
  | note => ⟨number first, number first, note⟩

/-- Entries with blanks and line breaks between them. -/
def ofText (text : String) : Chart :=
  let words := text.toList.splitOnP fun c => c = ' ' || c = '\n'
  ⟨((words.filter (!·.isEmpty)).map Entry.ofWord).toArray⟩

/-- Halves the entries in question until one is left. -/
def search (entries : Array Entry) (code low high : Nat) : Option Entry :=
  if low < high then
    let middle := (low + high) / 2
    match entries[middle]? with
    | none => none
    | some entry =>
      if code < entry.first then search entries code low middle
      else if entry.last < code then search entries code (middle + 1) high
      else some entry
  else none
termination_by high - low
decreasing_by all_goals omega

def find? (c : Char) (chart : Chart) : Option Entry :=
  search chart.entries c.toNat 0 chart.entries.size

def contains (c : Char) (chart : Chart) : Bool := (chart.find? c).isSome

/-- Code points with plus signs between them. -/
def codes (note : List Char) : List Char :=
  (note.splitOn '+').map fun digits => Char.ofNat (number digits)

end Chart

end Conveyor.Text
