import Conveyor.Failure
import Conveyor.Json
import Conveyor.Text.Unsigned

namespace Conveyor.Payment

/-- One acceptable way to pay for a resource. -/
structure Offer where
  scheme : String
  network : String
  asset : String
  /-- in the asset's base units -/
  maxAmountRequired : String := ""
  payTo : String := ""
  resource : String := ""
  description : Option String := none
  maxTimeoutSeconds : Option Nat := none
  extra : Option Json := none

/-- What a server asks for before it serves a resource. -/
structure Challenge where
  version : Nat := 1
  accepts : List Offer := []
  error : Option String := none

/-- A signed payment. -/
structure Proof where
  version : Nat
  scheme : String
  network : String
  payload : Json

/-- What a node is willing to pay with. -/
structure Expected where
  scheme : String
  network : String
  asset : String
  maxAmount : Option Nat := none
deriving DecidableEq

/-- Amounts are unsigned numbers of 128 bits. -/
def amount? (text : String) : Option Nat := Text.unsigned? 128 text.toList

namespace Expected

def suits (expected : Expected) (offer : Offer) : Bool :=
  offer.scheme = expected.scheme && offer.network = expected.network && offer.asset = expected.asset

/-- The first field in which an offer differs. -/
def mismatch (expected : Expected) (offer : Offer) : Failure :=
  if offer.scheme ≠ expected.scheme then .paymentMismatch "scheme" expected.scheme offer.scheme
  else if offer.network ≠ expected.network then
    .paymentMismatch "network" expected.network offer.network
  else .paymentMismatch "asset" expected.asset offer.asset

def overCap (cap : Nat) (actual : String) : Failure :=
  .paymentMismatch "maxAmountRequired" s!"<= {cap}" actual

def checkCap (expected : Expected) (offer : Offer) : Except Failure Offer :=
  match expected.maxAmount with
  | none => .ok offer
  | some cap =>
    match amount? offer.maxAmountRequired with
    | none => .error (overCap cap offer.maxAmountRequired)
    | some required => if cap < required then .error (overCap cap (toString required)) else .ok offer

/-- The first offer that suits, if it is not above the cap. Where none suits, the first
offer's difference is reported. -/
def select (expected : Expected) (offers : List Offer) : Except Failure Offer :=
  match offers with
  | [] => .error (.execution "402 response carried no payment requirements")
  | first :: _ =>
    match offers.find? expected.suits with
    | some offer => expected.checkCap offer
    | none => .error (expected.mismatch first)

end Expected

end Conveyor.Payment
