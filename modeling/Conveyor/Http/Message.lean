import Conveyor.Http.Method
import Conveyor.Http.Status
import Conveyor.Http.Url
import Conveyor.Json.Reader
import Conveyor.Text.Utf8

namespace Conveyor.Http

/-- A header's name is in lower case; its value is a byte list. -/
structure Header where
  name : String
  value : List UInt8
deriving DecidableEq

namespace Header

def isNameChar (c : Char) : Bool :=
  ('a' ≤ c && c ≤ 'z') || ('A' ≤ c && c ≤ 'Z') || ('0' ≤ c && c ≤ '9')
    || c ∈ "!#$%&'*+-.^_\x60|~".toList

def isValueByte (b : UInt8) : Bool := (0x20 ≤ b && b ≠ 0x7f) || b = 0x09

def longestName : Nat := 65535

def make? (name value : String) : Option Header :=
  let bytes := Text.Utf8.encode value
  let named := name ≠ "" ∧ name.length ≤ longestName ∧ name.toList.all isNameChar
  if named ∧ bytes.all isValueByte then
    some ⟨String.ofList (name.toList.map Char.toLower), bytes⟩
  else none

/-- A value is read as text only if all of it can be seen. -/
def text? (header : Header) : Option String :=
  if header.value.all fun b => (0x20 ≤ b && b ≤ 0x7e) || b = 0x09 then
    some (String.ofList (header.value.map fun b => Char.ofNat b.toNat))
  else none

def find? (name : String) (headers : List Header) : Option Header := headers.find? (·.name = name)

end Header

structure Request where
  method : Method
  url : Url
  /-- in the order they were added -/
  headers : List Header := []
  body : Option String := none

structure Response where
  status : Status
  headers : List Header := []
  body : List UInt8 := []

namespace Response

/-- The body as a value where it is one, as text otherwise. -/
def content (response : Response) : Json :=
  let text := Text.Utf8.text response.body
  (Json.ofText? text).getD (.str text)

end Response

/-- What becomes of a request. -/
inductive Fate
  | answered (after : Nat) (response : Response)
  /-- the connection closed without an answer -/
  | dropped
  /-- nobody is there to take it -/
  | refused
  /-- no answer ever comes -/
  | silent

end Conveyor.Http
