import Conveyor.Json.Printer
import Conveyor.Text.Blank
import Conveyor.Text.Unsigned

namespace Conveyor.Expression

inductive Error
  /-- a placeholder that is never closed, with the whole expression -/
  | unterminated (source : String)
  | unsupported (reference : String)
  | notFound (reference : String) (index : Nat)
deriving DecidableEq

def Error.message : Error → String
  | unterminated source => s!"unterminated placeholder in '{source}'"
  | unsupported reference => s!"unsupported reference '{reference}'"
  | notFound reference index => s!"'{reference}' not found in item {index}"

/-- Splits at the first occurrence of a character written twice: what stands before it
and what follows it. -/
def cut (c : Char) : List Char → Option (List Char × List Char)
  | a :: b :: rest =>
    if a = c ∧ b = c then some ([], rest)
    else (cut c (b :: rest)).map fun (before, after) => (a :: before, after)
  | _ => none

theorem cut_length {c : Char} {s before after : List Char} (h : cut c s = some (before, after)) :
    before.length + after.length + 2 = s.length := by
  induction s generalizing before with
  | nil => simp [cut] at h
  | cons a s ih =>
    cases s with
    | nil => simp [cut] at h
    | cons b rest =>
      simp only [cut] at h
      split at h
      · simp only [Option.some.injEq, Prod.mk.injEq] at h
        obtain ⟨rfl, rfl⟩ := h
        simp
      · obtain ⟨⟨x, y⟩, hc, he⟩ := Option.map_eq_some_iff.1 h
        simp only [Prod.mk.injEq] at he
        obtain ⟨rfl, rfl⟩ := he
        have := ih hc
        simp only [List.length_cons] at this ⊢
        omega

/-- The parts of a dotted path. Empty parts do not count. -/
def segments (path : List Char) : List String :=
  ((path.splitOn '.').filter (!·.isEmpty)).map String.ofList

/-- One step of a path: a field of an object, or an element of an array by its number. -/
def step (segment : String) : Json → Option Json
  | .obj fields => Table.get? segment fields
  | .arr items => do items[← Text.unsigned? 64 segment.toList]?
  | _ => none

def walk (path : List String) (value : Json) : Option Json :=
  path.foldlM (fun value segment => step segment value) value

/-- What a reference stands for: the item's index, the item, or a value within it. -/
def lookup (reference : List Char) (item : Json) (index : Nat) : Except Error Json :=
  if reference = "$index".toList then .ok (.nat index)
  else if reference = "$json".toList then .ok item
  else if "$json.".toList.isPrefixOf reference then
    match walk (segments (reference.drop 6)) item with
    | some value => .ok value
    | none => .error (.notFound (String.ofList reference) index)
  else .error (.unsupported (String.ofList reference))

/-- The reference of an expression that is one placeholder and nothing else. -/
def onlyPlaceholder (s : List Char) : Option (List Char) :=
  match s with
  | '{' :: '{' :: inner =>
    match inner.reverse with
    | '}' :: '}' :: reversed =>
      let inner := reversed.reverse
      if (cut '{' inner).isSome || (cut '}' inner).isSome then none else some (Text.trim inner)
    | _ => none
  | _ => none

/-- How a value is spelled within a text: a text as it is, all else compactly. -/
def spelled : Json → List Char
  | .str s => s.toList
  | value => value.text.toList

/-- Replaces placeholders from the left. What was put in is not looked at again. -/
def interpolate (source : String) (item : Json) (index : Nat) (rest : List Char) :
    Except Error (List Char) :=
  match h : cut '{' rest with
  | none => .ok rest
  | some (before, opened) =>
    match h' : cut '}' opened with
    | none => .error (.unterminated source)
    | some (reference, after) =>
      have : after.length < rest.length := by
        have := cut_length h
        have := cut_length h'
        omega
      match lookup (Text.trim reference) item index with
      | .error e => .error e
      | .ok value =>
        match interpolate source item index after with
        | .error e => .error e
        | .ok tail => .ok (before ++ spelled value ++ tail)
termination_by rest.length

/-- An expression that is one placeholder keeps the type of what it refers to; any
other is text with its placeholders replaced. -/
def evaluate (source : String) (item : Json) (index : Nat) : Except Error Json :=
  match onlyPlaceholder (Text.trim source.toList) with
  | some reference => lookup reference item index
  | none => (fun text => .str (String.ofList text)) <$> interpolate source item index source.toList

end Conveyor.Expression
