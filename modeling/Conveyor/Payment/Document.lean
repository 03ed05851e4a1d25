import Conveyor.Payment
import Conveyor.Json.Printer
import Conveyor.Json.Reader
import Conveyor.Json.Record
import Conveyor.Text.Base64
import Conveyor.Text.Utf8

namespace Conveyor.Payment

def Offer.toJson (offer : Offer) : Json :=
  .ofFields <|
    [("scheme", .str offer.scheme), ("network", .str offer.network), ("asset", .str offer.asset),
        ("maxAmountRequired", .str offer.maxAmountRequired), ("payTo", .str offer.payTo),
        ("resource", .str offer.resource)]
      ++ (offer.description.map fun text => ("description", .str text)).toList
      ++ (offer.maxTimeoutSeconds.map fun n => ("maxTimeoutSeconds", .nat n)).toList
      ++ (offer.extra.map (("extra", ·))).toList

def Offer.ofTree? (levels : Tree.Levels) (tree : Tree) : Option Offer := do
  let inner ← Tree.enter levels
  let slots ← tree.slots?
    ["scheme", "network", "asset", "maxAmountRequired", "payTo", "resource", "description",
      "maxTimeoutSeconds", "extra"]
  match slots.given with
  | [scheme, network, asset, maxAmountRequired, payTo, resource, description, maxTimeoutSeconds,
      extra] =>
    return {
      scheme := ← Tree.required Tree.string? scheme
      network := ← Tree.required Tree.string? network
      asset := ← Tree.required Tree.string? asset
      maxAmountRequired := ← Tree.orElse Tree.string? "" maxAmountRequired
      payTo := ← Tree.orElse Tree.string? "" payTo
      resource := ← Tree.orElse Tree.string? "" resource
      description := ← Tree.optional Tree.string? description
      maxTimeoutSeconds := ← Tree.optional (Tree.unsigned? 64) maxTimeoutSeconds
      extra := ← Tree.optional (Tree.toJson? inner) extra }
  | _ => none

def Challenge.toJson (challenge : Challenge) : Json :=
  .ofFields <|
    [("x402Version", .nat challenge.version), ("accepts", .arr (challenge.accepts.map Offer.toJson))]
      ++ (challenge.error.map fun text => ("error", .str text)).toList

def Challenge.ofTree? (levels : Tree.Levels) (tree : Tree) : Option Challenge := do
  let inner ← Tree.enter levels
  let slots ← tree.slots? ["x402Version", "accepts", "error"]
  match slots.given with
  | [version, accepts, error] =>
    return {
      version := ← Tree.orElse (Tree.unsigned? 32) 1 version
      accepts := ← Tree.orElse (Tree.list? inner Offer.ofTree?) [] accepts
      error := ← Tree.optional Tree.string? error }
  | _ => none

def Challenge.ofBytes? (bytes : List UInt8) : Option Challenge :=
  (Tree.ofBytes? bytes).bind (Challenge.ofTree? Tree.textLevels)

namespace Proof

def toJson (proof : Proof) : Json :=
  .ofFields
    [("x402Version", .nat proof.version), ("scheme", .str proof.scheme),
      ("network", .str proof.network), ("payload", proof.payload)]

/-- Compact text, its fields in declaration order. -/
def text (proof : Proof) : String :=
  Json.text (.obj
    [("x402Version", .nat proof.version), ("scheme", .str proof.scheme),
      ("network", .str proof.network), ("payload", proof.payload)])

def ofTree? (levels : Tree.Levels) (tree : Tree) : Option Proof := do
  let inner ← Tree.enter levels
  let slots ← tree.slots? ["x402Version", "scheme", "network", "payload"]
  match slots.given with
  | [version, scheme, network, payload] =>
    return {
      version := ← Tree.required (Tree.unsigned? 32) version
      scheme := ← Tree.required Tree.string? scheme
      network := ← Tree.required Tree.string? network
      payload := ← Tree.required (Tree.toJson? inner) payload }
  | _ => none

/-- The base64 form of the text, as it travels in a header. -/
def toHeader (proof : Proof) : String :=
  String.ofList (Text.Base64.encode (Text.Utf8.encode proof.text))

def unreadable : Failure := .execution "invalid payment header"

def ofHeader (header : String) : Except Failure Proof :=
  match Text.Base64.decode? header.toList with
  | none => .error unreadable
  | some bytes =>
    match (Tree.ofBytes? bytes).bind (ofTree? Tree.textLevels) with
    | none => .error unreadable
    | some proof => .ok proof

end Proof

end Conveyor.Payment
