import Conveyor.Http.Client
import Conveyor.Payment.Document
import Conveyor.Registry

namespace Conveyor.Nodes.PaidRequest

open Http Payment

def paymentHeader : String := "X-PAYMENT"

/-- Where a server reports how a payment was settled. -/
def settlementHeader : String := "x-payment-response"

def description : Description :=
  { displayName := "Paid API Request"
    name := "x402.request"
    description := "Call an HTTP resource that requires payment"
    category := "payments"
    parameters :=
      [{ name := "url", kind := .string, required := true },
        { name := "method", kind := .string, default := some (.str "GET") },
        { name := "body", kind := .any },
        { name := "scheme", kind := .string, default := some (.str "exact") },
        { name := "network", kind := .string, default := some (.str "solana-devnet") },
        { name := "asset", kind := .string, default := some (.str "USDC") },
        { name := "maxAmount", kind := .string, displayName := "Max amount"
          description := "Upper bound in base units, e.g. \"1000000\"" }] }

def cap (ctx : Context) (index : Nat) : Except Failure (Option Nat) := do
  match ← ctx.optional "maxAmount" index with
  | some (.str text) =>
    match amount? text with
    | some n => return some n
    | none => throw (.typeMismatch "maxAmount" "integer string" text)
  | _ => return none

def expected (ctx : Context) (index : Nat) : Except Failure Expected := do
  let maxAmount ← cap ctx index
  let scheme ← ctx.text "scheme" index
  let network ← ctx.text "network" index
  let asset ← ctx.text "asset" index
  return { scheme, network, asset, maxAmount }

/-- Everything is resolved before anything is sent. -/
def prepare (ctx : Context) (index : Nat) : Except Failure (Http.Request × Expected) := do
  let url ← ctx.text "url" index
  let method ← ctx.text "method" index
  let body ← ctx.optional "body" index
  let expected ← expected ctx index
  return (← Client.prepare method url body, expected)

def challenge (response : Response) : Except Failure Challenge :=
  match Challenge.ofBytes? response.body with
  | some challenge => .ok challenge
  | none => .error (.execution "unreadable payment requirements: error decoding response body")

def settlement (response : Response) : Option Json := do
  let header ← Header.find? settlementHeader response.headers
  let bytes ← Text.Base64.decode? (← header.text?).toList
  Json.ofBytes? bytes

def orNull (value : Option Json) : Json := value.getD .null

def finish (response : Response) (paid : Option Offer) : Except Failure Output :=
  if response.status.isSuccess then
    .ok { items :=
      [.ofFields
        [("success", .bool true), ("status", .nat response.status.code), ("data", response.content),
          ("paymentResponse", orNull (settlement response)),
          ("payment", orNull (paid.map Offer.toJson))]] }
  else .error (.http s!"resource returned {response.status.text}: {response.content.text}")

def rejection (response : Response) : Failure :=
  .paymentRejected <|
    ((Challenge.ofBytes? response.body).bind Challenge.error).getD "payment was not accepted"

/-- Answers the first challenge with a payment. A second one is final. -/
def run (ctx : Context) (index : Nat) : NodeWork Output := do
  let (request, expected) ← liftM (prepare ctx index)
  let first ← Client.send request
  if first.status ≠ .paymentRequired then liftM (finish first none)
  else
    let challenge ← liftM (challenge first)
    let offer ← liftM (expected.select challenge.accepts)
    let _ ← liftM (ctx.capabilities.require .wallet)
    let proof ← liftM (← NodeWork.ask (.sign offer))
    let paying ← liftM (Client.addHeader paymentHeader proof.toHeader request)
    let second ← Client.send paying
    if second.status = .paymentRequired then throw (rejection second)
    else liftM (finish second (some offer))

def node : Node := { description, run := fun ctx index _ => run ctx index }

def factory : Factory := fun _ => .ok node

end Conveyor.Nodes.PaidRequest
