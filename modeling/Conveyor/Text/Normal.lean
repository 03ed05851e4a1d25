import Conveyor.Text.Normal.Table
import Conveyor.Text.Unsigned

namespace Conveyor.Text.Normal

/-- The place of a mark among the marks behind a base character, whose own class is 0. -/
def classOf (c : Char) : Nat :=
  match classes.find? c with
  | some entry => ((entry.note.drop 1).mapM digit?).elim 0 (·.foldl (fun n d => n * 10 + d) 0)
  | none => 0

/-! Syllables of Hangul are made of a leading consonant, a vowel and perhaps a trailing
consonant, and stand in the order of these. -/

def leads : Nat := 0x1100
def vowels : Nat := 0x1161
def trails : Nat := 0x11a7
def syllables : Nat := 0xac00

def letters? (c : Char) : Option (List Char) :=
  let n := c.toNat - syllables
  if syllables ≤ c.toNat ∧ n < 19 * 21 * 28 then
    let lead := Char.ofNat (leads + n / (21 * 28))
    let vowel := Char.ofNat (vowels + n / 28 % 21)
    some (if n % 28 = 0 then [lead, vowel] else [lead, vowel, Char.ofNat (trails + n % 28)])
  else none

def syllable? (a b : Char) : Option Char :=
  let x := a.toNat
  let y := b.toNat
  if leads ≤ x ∧ x < leads + 19 ∧ vowels ≤ y ∧ y < vowels + 21 then
    some (Char.ofNat (syllables + ((x - leads) * 21 + (y - vowels)) * 28))
  else if syllables ≤ x ∧ x < syllables + 19 * 21 * 28 ∧ (x - syllables) % 28 = 0
      ∧ trails < y ∧ y < trails + 28 then
    some (Char.ofNat (x + (y - trails)))
  else none

/-- What a character is made of. -/
def parts? (c : Char) : Option (List Char) :=
  letters? c <|> (compositions.find? c).map fun entry => Chart.codes (entry.note.drop 1)

def decompose : (steps : Nat) → Char → List Char
  | 0, c => [c]
  | steps + 1, c =>
    match parts? c with
    | some parts => parts.flatMap (decompose steps)
    | none => [c]

/-- Three steps take any character apart. -/
def depth : Nat := 3

/-- Moves a mark to its place behind characters in reverse order. Marks of one class keep theirs. -/
def settle (c : Char) : List Char → List Char
  | [] => [c]
  | d :: done =>
    if classOf c ≠ 0 ∧ classOf c < classOf d then d :: settle c done else c :: d :: done

def decomposed (cs : List Char) : List Char :=
  ((cs.flatMap (decompose depth)).foldl (fun done c => settle c done) []).reverse

/-- The two parts of a character, and the character. -/
def pairs : List ((Char × Char) × Char) :=
  compositions.entries.toList.filterMap fun entry =>
    match entry.note with
    | '=' :: note =>
      (match Chart.codes note with
      | [a, b] => some ((a, b), Char.ofNat entry.first)
      | _ => none)
    | _ => none

def compose? (a b : Char) : Option Char := syllable? a b <|> pairs.lookup (a, b)

/-- Text that is being composed, in reverse: what is done, a base character, and the marks behind
it that stay. -/
structure Composing where
  done : List Char := []
  base : Option Char := none
  marks : List Char := []

namespace Composing

def text (t : Composing) : List Char := (t.marks ++ t.base.toList ++ t.done).reverse

/-- A mark that stays keeps those of its class, or of a lower one, from the base. -/
def add (t : Composing) (c : Char) : Composing :=
  match t.base with
  | none => if classOf c = 0 then { t with base := some c } else { t with done := c :: t.done }
  | some base =>
    let free := t.marks.head?.all fun mark => classOf mark < classOf c
    match if free then compose? base c else none with
    | some whole => { t with base := some whole }
    | none =>
      if classOf c = 0 then { done := t.marks ++ base :: t.done, base := some c }
      else { t with marks := c :: t.marks }

end Composing

/-- The composed form: equivalent texts have the same. -/
def composed (cs : List Char) : List Char :=
  ((decomposed cs).foldl Composing.add {}).text

end Conveyor.Text.Normal
