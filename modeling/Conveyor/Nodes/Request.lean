import Conveyor.Http.Client
import Conveyor.Registry

namespace Conveyor.Nodes.Request

open Http

def description : Description :=
  { displayName := "HTTP Request"
    name := "http.request"
    description := "Make HTTP requests"
    category := "http"
    parameters :=
      [{ name := "url", kind := .string, required := true },
        { name := "method", kind := .string, default := some (.str "GET") },
        { name := "body", kind := .any },
        { name := "headers", kind := .object },
        { name := "failOnStatus", kind := .boolean, default := some (.bool true)
          description := "Fail the item on 4xx/5xx responses" }] }

/-- Only headers with a text as their value are sent. -/
def addHeaders : Table Json → Http.Request → Except Failure Http.Request
  | [], request => .ok request
  | (name, .str value) :: rest, request => do
    addHeaders rest (← Client.addHeader name value request)
  | _ :: rest, request => addHeaders rest request

def prepare (ctx : Context) (index : Nat) : Except Failure (String × Http.Request) := do
  let url ← ctx.text "url" index
  let method ← ctx.text "method" index
  let body ← ctx.optional "body" index
  let headers ← ctx.optional "headers" index
  let request ← Client.prepare method url body
  match headers with
  | some (.obj headers) => return (url, ← addHeaders headers request)
  | _ => return (url, request)

def run (ctx : Context) (index : Nat) : NodeWork Output := do
  let (url, request) ← liftM (prepare ctx index)
  let response ← Client.send request
  let failing ← if 400 ≤ response.status.code then liftM (ctx.flag "failOnStatus" index) else pure false
  if failing then
    throw (.http s!"{url} returned {response.status.text}: {response.content.text}")
  else
    return { items :=
      [.ofFields [("status", .nat response.status.code), ("body", response.content)]] }

def node : Node := { description, run := fun ctx index _ => run ctx index }

def factory : Factory := fun _ => .ok node

end Conveyor.Nodes.Request
