import LightningDeposit.Payment.Result

/-!
Outgoing payments as a mint asks for them. A receive-only backend refuses them all; their data are
part of the contract nevertheless.
-/

namespace LightningDeposit

structure MeltQuoteRequest where
  request : String
  unit : CurrencyUnit
  deriving DecidableEq

namespace MeltQuoteRequest

def toJson (r : MeltQuoteRequest) : Json :=
  Json.record [("request", Json.text r.request), ("unit", r.unit.toJson)]

def ofJson? (v : Json) : Option MeltQuoteRequest := do
  let field ← v.fields? ["request", "unit"]
  return {
    request := ← (field "request").required Json.string?
    unit := ← (field "unit").required CurrencyUnit.ofJson? }

end MeltQuoteRequest

structure MeltQuote where
  quoteId : String
  request : String
  amount : Amount
  deriving DecidableEq

namespace MeltQuote

def toJson (q : MeltQuote) : Json :=
  Json.record [("quote_id", Json.text q.quoteId), ("request", Json.text q.request),
    ("amount", q.amount.toJson)]

def ofJson? (v : Json) : Option MeltQuote := do
  let field ← v.fields? ["quote_id", "request", "amount"]
  return {
    quoteId := ← (field "quote_id").required Json.string?
    request := ← (field "request").required Json.string?
    amount := ← (field "amount").required Amount.ofJson? }

end MeltQuote

structure PaymentQuoteResponse where
  checkingId : Option String
  amount : Amount
  fee : Amount
  deriving DecidableEq

namespace PaymentQuoteResponse

def toJson (r : PaymentQuoteResponse) : Json :=
  Json.record [("checking_id", Json.optional Json.text r.checkingId),
    ("amount", r.amount.toJson), ("fee", r.fee.toJson)]

def ofJson? (v : Json) : Option PaymentQuoteResponse := do
  let field ← v.fields? ["checking_id", "amount", "fee"]
  return {
    checkingId := ← (field "checking_id").optional Json.string?
    amount := ← (field "amount").required Amount.ofJson?
    fee := ← (field "fee").required Amount.ofJson? }

end PaymentQuoteResponse

structure PaymentResponse where
  result : PaymentResult
  checkingId : Option String
  fee : Option Amount
  preimage : Option String
  errorMessage : Option String
  deriving DecidableEq

namespace PaymentResponse

def toJson (r : PaymentResponse) : Json :=
  Json.record [("result", r.result.toJson),
    ("checking_id", Json.optional Json.text r.checkingId),
    ("fee", Json.optional Amount.toJson r.fee),
    ("preimage", Json.optional Json.text r.preimage),
    ("error_message", Json.optional Json.text r.errorMessage)]

def ofJson? (v : Json) : Option PaymentResponse := do
  let field ← v.fields? ["result", "checking_id", "fee", "preimage", "error_message"]
  return {
    result := ← (field "result").required PaymentResult.ofJson?
    checkingId := ← (field "checking_id").optional Json.string?
    fee := ← (field "fee").optional Amount.ofJson?
    preimage := ← (field "preimage").optional Json.string?
    errorMessage := ← (field "error_message").optional Json.string? }

end PaymentResponse

end LightningDeposit
