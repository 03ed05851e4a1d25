import Conveyor.Json.Printer
import Conveyor.Node
import Conveyor.Text.Base64

namespace Conveyor.Http.Client

/-- Something about a request that cannot be sent. -/
def malformed : Failure := .http "builder error"

def unsuited (url : Url) : Failure := .http s!"builder error for url ({url.text})"

def unsent (url : Url) : Failure := .http s!"error sending request for url ({url.text})"

/-- What an escaped text stands for, if it is text. -/
def plain? (escaped : String) : Option String :=
  String.fromUTF8? ⟨(Text.Percent.decode escaped.toList).toArray⟩

/-- The name and the password in an address, where there are any. A password that is no text
counts as none. -/
def login? (url : Url) : Option (String × Option String) := do
  let name ← plain? url.user
  let password := url.password.bind plain?
  if name = "" ∧ password.isNone then none else some (name, password)

def authorization (name : String) (password : Option String) : Header :=
  let pair := Text.Utf8.encode (name ++ ":" ++ password.getD "")
  ⟨"authorization", Text.Utf8.encode ("Basic " ++ String.ofList (Text.Base64.encode pair))⟩

/-- Name and password travel in a header instead of the address. -/
def logIn (url : Url) : Url × List Header :=
  match login? url with
  | some (name, password) =>
    ({ url with user := "", password := none }, [authorization name password])
  | none => (url, [])

def jsonType : Header := ⟨"content-type", Text.Utf8.encode "application/json"⟩

/-- A text is sent as it is, null not at all, and anything else as compact text. -/
def content : Option Json → List Header × Option String
  | some (.str text) => ([], some text)
  | some .null => ([], none)
  | some value => ([jsonType], some value.text)
  | none => ([], none)

/-- A request to a host, before any header of its own. -/
def prepare (method url : String) (body : Option Json) : Except Failure Request :=
  match Method.ofName? method with
  | none => .error (.execution s!"Unsupported method: {method}")
  | some method =>
    match Url.ofText? url with
    | none => .error malformed
    | some url =>
      if url.host.all (· = "") then .error (unsuited url)
      else
        let (url, login) := logIn url
        let (headers, body) := content body
        .ok { method, url, body, headers := login ++ headers }

def addHeader (name value : String) (request : Request) : Except Failure Request :=
  match Header.make? name value with
  | some header => .ok { request with headers := request.headers ++ [header] }
  | none => .error malformed

/-- Bytes an address may have on the wire. -/
def longestAddress : Nat := 65534

/-- Whether an address can be sent. Quotes and braces in a host cannot. -/
def speaks (url : Url) : Bool :=
  (url.scheme = "http" || url.scheme = "https")
    && url.text.utf8ByteSize ≤ longestAddress
    && !(url.host.getD "").toList.any fun c => c ∈ ['"', '\x60', '\x7b', '\x7d']

/-- Sends a request and waits for the answer. -/
def send (request : Request) : NodeWork Response := do
  if speaks request.url then
    match ← NodeWork.ask (.send request) with
    | .answered after response =>
      NodeWork.ask (.sleep after)
      return response
    | .dropped | .refused => throw (unsent request.url)
    | .silent => NodeWork.hang
  else throw (unsuited request.url)

end Conveyor.Http.Client
