import Conveyor.Http.Domain.Table
import Conveyor.Text.Bidi
import Conveyor.Text.Joining
import Conveyor.Text.Mark
import Conveyor.Text.Normal
import Conveyor.Text.Punycode

namespace Conveyor.Http.Domain

open Text (Bidi Chart)

/-- Characters that mean something else in an address. Quotes and braces are let through. -/
def isReserved (c : Char) : Bool :=
  c.toNat ≤ 0x20 || c.toNat = 0x7f || c ∈ "#%/:<>?@[\\]^|".toList

def replacement? (c : Char) : Option (List Char) := do
  let entry ← replaced.find? c
  match entry.note with
  | '/' :: _ => if (c.toNat - entry.first) % 2 = 0 then some [Char.ofNat (c.toNat + 1)] else none
  | _ :: note =>
    match Chart.codes note with
    | [first] => some [Char.ofNat (first.toNat + (c.toNat - entry.first))]
    | codes => some codes
  | [] => none

/-- What a character of a domain counts as. -/
def counted? (c : Char) : Option (List Char) :=
  if ignored.contains c then some []
  else replacement? c <|> if admitted.contains c then some [c] else none

/-- The form in which domains are compared. -/
def canonical? (cs : List Char) : Option (List Char) := do
  let counted := Text.Normal.composed (← cs.mapM counted?).flatten
  if counted.any isReserved then none else some counted

/-- Whether a text is its own canonical form. -/
def isCanonical (cs : List Char) : Bool :=
  cs.all (fun c => counted? c = some [c]) && canonical? cs = some cs

def joiner : Char := '\u200d'
def nonJoiner : Char := '\u200c'

/-- The class of the marks that leave out a vowel. -/
def virama : Nat := 9

/-- A joiner stands behind a virama. A non-joiner may also stand where it keeps two letters
apart. The text before them is in reverse. -/
def joins (before after : List Char) (c : Char) : Bool :=
  if c = joiner || c = nonJoiner then
    before.head?.any (Text.Normal.classOf · = virama)
      || (c = nonJoiner
        && (before.dropWhile Text.Joining.isTransparent).head?.any Text.Joining.joinsNext
        && (after.dropWhile Text.Joining.isTransparent).head?.any Text.Joining.joinsPrevious)
  else true

def joinsThroughout (before : List Char) : List Char → Bool
  | [] => true
  | c :: after => joins before after c && joinsThroughout (c :: before) after

/-- How many characters a label beyond ASCII may have, plain or encoded. -/
def longestPlain : Nat := 1000
def longestEncoded : Nat := 2000

/-- A label as it is read and as it is sent. -/
structure Label where
  plain : List Char
  sent : List Char

namespace Label

def isAscii (cs : List Char) : Bool := cs.all (·.toNat < 0x80)

def encodedHead : List Char := "xn--".toList

/-- A label beyond ASCII does not begin with a mark. -/
def isSound (plain : List Char) : Bool :=
  !plain.head?.any Text.Mark.isMark && joinsThroughout [] plain

def ofEncoded? (sent : List Char) : Option Label := do
  let code := sent.drop encodedHead.length
  if isAscii code ∧ code.getLast?.any (· ≠ '-') ∧ code.length ≤ longestEncoded then
    let plain ← Text.Punycode.decode? code
    if isCanonical plain ∧ '.' ∉ plain ∧ isSound plain then some ⟨plain, sent⟩ else none
  else none

def ofText? (plain : List Char) : Option Label :=
  if encodedHead.isPrefixOf plain then ofEncoded? plain
  else if isAscii plain then some ⟨plain, plain⟩
  else if plain.length ≤ longestPlain ∧ isSound plain then
    some ⟨plain, encodedHead ++ Text.Punycode.encode plain⟩
  else none

/-- Digits and signs that may stand in text of either direction. -/
def isShared (b : Bidi) : Bool :=
  b ∈ [.europeanNumber, .europeanSeparator, .europeanTerminator, .commonSeparator, .neutral,
    .boundary, .mark]

def isRightward (b : Bidi) : Bool := b ∈ [.rightToLeft, .arabicLetter, .arabicNumber]

/-- Whether a label keeps its order beside labels that run from right to left: its first letter
tells its direction, it holds nothing of the other one, and marks apart it ends in a letter or
digit of its own. -/
def keepsOrder (plain : List Char) : Bool :=
  let bidi := plain.map Bidi.ofChar
  let ending := (bidi.reverse.dropWhile (· = .mark)).headD .mark
  match bidi with
  | [] => true
  | .leftToRight :: _ =>
    bidi.all (fun b => b = .leftToRight || isShared b)
      && (ending = .leftToRight || ending = .europeanNumber)
  | .rightToLeft :: _ | .arabicLetter :: _ =>
    bidi.all (fun b => isRightward b || isShared b)
      && (isRightward ending || ending = .europeanNumber)
      && !(bidi.contains .europeanNumber && bidi.contains .arabicNumber)
  | _ => false

end Label

/-- The form in which a domain is sent: lower-case ASCII. -/
def ascii? (cs : List Char) : Option (List Char) := do
  let labels ← ((← canonical? cs).splitOn '.').mapM Label.ofText?
  let plain := labels.map Label.plain
  let mixes := plain.flatten.any fun c => Label.isRightward (Bidi.ofChar c)
  if mixes && !plain.all Label.keepsOrder then none
  else some (['.'].intercalate (labels.map Label.sent))

end Conveyor.Http.Domain
