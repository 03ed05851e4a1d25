import Conveyor.Json
import Conveyor.Decimal.Notation
import Conveyor.Text.Hex

namespace Conveyor

/-- Reals keep a point or an exponent, so they never read back as integers. -/
def Number.spelling : Decimal.Notation :=
  { leastPlain := -5, mostPlain := 15, whole := ".0", exponentMark := "e", positiveExponent := "+" }

def Number.text : Number → String
  | .int n => toString n
  | .real x => spelling.write x

namespace Json

/-- Quotes, backslashes and the controls below U+0020 are escaped; nothing else is. -/
def escapeChar (c : Char) : String :=
  if c = '\x22' then "\\\""
  else if c = '\x5c' then "\\\\"
  else if c = '\x08' then "\\b"
  else if c = '\x0c' then "\\f"
  else if c = '\n' then "\\n"
  else if c = '\r' then "\\r"
  else if c = '\t' then "\\t"
  else if c.toNat < 0x20 then
    "\\u00" ++ String.ofList [Text.Hex.digit (c.toNat / 16), Text.Hex.digit (c.toNat % 16)]
  else String.singleton c

def quote (s : String) : String := "\"" ++ String.join (s.toList.map escapeChar) ++ "\""

def openBrace : String := "\x7b"
def closeBrace : String := "\x7d"

mutual

/-- Compact text, without blanks. -/
def text : Json → String
  | null => "null"
  | bool true => "true"
  | bool false => "false"
  | num n => n.text
  | str s => quote s
  | arr items => "[" ++ itemsText items ++ "]"
  | obj fields => openBrace ++ fieldsText fields ++ closeBrace

def itemsText : List Json → String
  | [] => ""
  | [item] => item.text
  | item :: rest => item.text ++ "," ++ itemsText rest

def fieldsText : List (String × Json) → String
  | [] => ""
  | [(name, value)] => quote name ++ ":" ++ value.text
  | (name, value) :: rest => quote name ++ ":" ++ value.text ++ "," ++ fieldsText rest

end

def newline (depth : Nat) : String := "\n" ++ String.join (List.replicate depth "  ")

mutual

/-- One element a line, two blanks a level; empty arrays and objects stay on one line. -/
def pretty (depth : Nat) : Json → String
  | arr [] => "[]"
  | obj [] => openBrace ++ closeBrace
  | arr items => "[" ++ newline (depth + 1) ++ prettyItems (depth + 1) items ++ newline depth ++ "]"
  | obj fields =>
    openBrace ++ newline (depth + 1) ++ prettyFields (depth + 1) fields ++ newline depth ++ closeBrace
  | scalar => scalar.text

def prettyItems (depth : Nat) : List Json → String
  | [] => ""
  | [item] => item.pretty depth
  | item :: rest => item.pretty depth ++ "," ++ newline depth ++ prettyItems depth rest

def prettyFields (depth : Nat) : List (String × Json) → String
  | [] => ""
  | [(name, value)] => quote name ++ ": " ++ value.pretty depth
  | (name, value) :: rest =>
    quote name ++ ": " ++ value.pretty depth ++ "," ++ newline depth ++ prettyFields depth rest

end

end Json

end Conveyor
