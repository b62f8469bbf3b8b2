import LightningDeposit.Currency

/-!
What a backend answers about payments it receives: the outcome of a payment, the invoice made for
it, the balance held, and the features on offer. Failures to find out are part of the answers.
-/

namespace LightningDeposit

inductive PaymentResult where
  | pending
  | settled
  | failed
  | unknown
  deriving DecidableEq

namespace PaymentResult

/-- No further change is expected. -/
def isFinal : PaymentResult → Bool
  | .settled | .failed => true
  | .pending | .unknown => false

def name : PaymentResult → String
  | .pending => "PENDING"
  | .settled => "SETTLED"
  | .failed => "FAILED"
  | .unknown => "UNKNOWN"

def ofName? (s : String) : Option PaymentResult :=
  if s = "PENDING" then some .pending
  else if s = "SETTLED" then some .settled
  else if s = "FAILED" then some .failed
  else if s = "UNKNOWN" then some .unknown
  else none

theorem ofName?_name (r : PaymentResult) : ofName? r.name = some r := by
  cases r <;> decide

def toJson (r : PaymentResult) : Json := Json.text r.name

def ofJson? (v : Json) : Option PaymentResult := v.name?.bind ofName?

end PaymentResult

structure PaymentStatus where
  result : PaymentResult
  errorMessage : Option String
  deriving DecidableEq

namespace PaymentStatus

def of (result : PaymentResult) : PaymentStatus := ⟨result, none⟩

/-- The outcome could not be found out, for the reason given. -/
def unknown (reason : String) : PaymentStatus := ⟨.unknown, some reason⟩

def settled (s : PaymentStatus) : Bool := decide (s.result = .settled)

def toJson (s : PaymentStatus) : Json :=
  Json.record [("result", s.result.toJson),
    ("error_message", Json.optional Json.text s.errorMessage)]

def ofJson? (v : Json) : Option PaymentStatus := do
  let field ← v.fields? ["result", "error_message"]
  return {
    result := ← (field "result").required PaymentResult.ofJson?
    errorMessage := ← (field "error_message").optional Json.string? }

end PaymentStatus

structure InvoiceResponse where
  ok : Bool
  checkingId : Option String
  paymentRequest : Option String
  errorMessage : Option String
  deriving DecidableEq

namespace InvoiceResponse

def created (checkingId paymentRequest : String) : InvoiceResponse :=
  ⟨true, some checkingId, some paymentRequest, none⟩

def failed (reason : String) : InvoiceResponse :=
  ⟨false, none, none, some reason⟩

def toJson (r : InvoiceResponse) : Json :=
  Json.record [("ok", .bool r.ok),
    ("checking_id", Json.optional Json.text r.checkingId),
    ("payment_request", Json.optional Json.text r.paymentRequest),
    ("error_message", Json.optional Json.text r.errorMessage)]

def ofJson? (v : Json) : Option InvoiceResponse := do
  let field ← v.fields? ["ok", "checking_id", "payment_request", "error_message"]
  return {
    ok := ← (field "ok").required Json.bool?
    checkingId := ← (field "checking_id").optional Json.string?
    paymentRequest := ← (field "payment_request").optional Json.string?
    errorMessage := ← (field "error_message").optional Json.string? }

end InvoiceResponse

structure StatusResponse where
  balance : Amount
  errorMessage : Option String
  deriving DecidableEq

namespace StatusResponse

def toJson (r : StatusResponse) : Json :=
  Json.record [("balance", r.balance.toJson),
    ("error_message", Json.optional Json.text r.errorMessage)]

def ofJson? (v : Json) : Option StatusResponse := do
  let field ← v.fields? ["balance", "error_message"]
  return {
    balance := ← (field "balance").required Amount.ofJson?
    errorMessage := ← (field "error_message").optional Json.string? }

end StatusResponse

/-- What a backend's invoices can do. -/
structure Bolt11Settings where
  mpp : Bool
  amountless : Bool
  invoiceDescription : Bool
  deriving DecidableEq

namespace Bolt11Settings

def toJson (s : Bolt11Settings) : Json :=
  Json.record [("mpp", .bool s.mpp), ("amountless", .bool s.amountless),
    ("invoice_description", .bool s.invoiceDescription)]

def ofJson? (v : Json) : Option Bolt11Settings := do
  let field ← v.fields? ["mpp", "amountless", "invoice_description"]
  return {
    mpp := ← (field "mpp").required Json.bool?
    amountless := ← (field "amountless").required Json.bool?
    invoiceDescription := ← (field "invoice_description").required Json.bool? }

end Bolt11Settings

structure SettingsResponse where
  unit : CurrencyUnit
  bolt11 : Bolt11Settings
  meltEnabled : Bool
  incomingPaymentStream : Bool
  deriving DecidableEq

namespace SettingsResponse

def toJson (r : SettingsResponse) : Json :=
  Json.record [("unit", r.unit.toJson), ("bolt11", r.bolt11.toJson),
    ("melt_enabled", .bool r.meltEnabled),
    ("incoming_payment_stream", .bool r.incomingPaymentStream)]

def ofJson? (v : Json) : Option SettingsResponse := do
  let field ← v.fields? ["unit", "bolt11", "melt_enabled", "incoming_payment_stream"]
  return {
    unit := ← (field "unit").required CurrencyUnit.ofJson?
    bolt11 := ← (field "bolt11").required Bolt11Settings.ofJson?
    meltEnabled := ← (field "melt_enabled").required Json.bool?
    incomingPaymentStream := ← (field "incoming_payment_stream").required Json.bool? }

end SettingsResponse

end LightningDeposit
