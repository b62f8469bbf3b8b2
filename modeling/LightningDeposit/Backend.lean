import LightningDeposit.Client
import LightningDeposit.Payment.Melt
import LightningDeposit.Rate.Cache
import LightningDeposit.Rate.Pricing

/-!
A receive-only lightning backend. Invoices are charges at the provider, in satoshis or, at the
current exchange rate, in dollars; their state is found by asking for the charge. Outgoing payments
are refused.
-/

namespace LightningDeposit

structure Backend where
  client : Client
  unit : CurrencyUnit
  callbackUrl : Option String
  redisUrl : Option String
  invoiceExpirySecs : UInt64
  invoiceDescription : String
  deriving DecidableEq

/-- The world around an operation: the far side, and the rate slot that the backend shares. -/
structure Surroundings where
  exchange : Exchange
  slot : RateSlot

namespace Backend

def supportedUnits : List CurrencyUnit := [.sat, .usd]

/-- A backend for a unit. The unit, the key and the address are checked in this order, and nothing
is sent. -/
def new (settings : Settings) (unit : CurrencyUnit) : Except BackendError Backend :=
  if unit ∉ supportedUnits then .error (.unsupportedUnit unit)
  else if Text.trim settings.apiKey = "" then .error .missingApiKey
  else
    match Client.new settings.apiKey (some settings.apiUrl) with
    | .error cause => .error (.client (.invalidUrl cause))
    | .ok client =>
      .ok {
        client := client
        unit := unit
        callbackUrl := settings.callbackUrl.bind Settings.nonEmpty
        redisUrl := settings.redisUrl.bind Settings.nonEmpty
        invoiceExpirySecs := settings.invoiceExpirySecs
        invoiceDescription := settings.invoiceDescription }

def unitDebugText : CurrencyUnit → String
  | .sat => "Sat"
  | .msat => "Msat"
  | .usd => "Usd"
  | .eur => "Eur"

/-- What diagnostics show of a backend with that many open streams. -/
def debugText (b : Backend) (streams : Nat) : String :=
  let callback :=
    match b.callbackUrl with
    | none => "None"
    | some url => "Some(" ++ Text.quoted url ++ ")"
  "Zbd \x7b unit: " ++ unitDebugText b.unit ++ ", api: " ++ b.client.debugText ++
    ", callback_url: " ++ callback ++ ", wait_invoice_streams: " ++ Text.ofNat streams ++ " \x7d"

def supportsMelt (_ : Backend) : Bool := false

def settings (b : Backend) : SettingsResponse where
  unit := b.unit
  bolt11 := { mpp := false, amountless := false, invoiceDescription := true }
  meltEnabled := false
  incomingPaymentStream := true

/-- An exchange rate to price an invoice with. -/
def exchangeRate (b : Backend) (s : Surroundings) : Except BackendError Binary64 × Surroundings :=
  match s.slot.fresh? s.exchange.clock with
  | some rate => (.ok rate, s)
  | none =>
    let (answer, x) := b.client.bitcoinPrice s.exchange
    let (result, slot) := s.slot.settle x.clock answer
    (result, ⟨x, slot⟩)

/-- The balance in satoshis, the rest of a satoshi dropped. -/
def status (b : Backend) (s : Surroundings) : StatusResponse × Surroundings :=
  let (answer, x) := b.client.wallet s.exchange
  let response : StatusResponse :=
    match answer with
    | .ok wallet => ⟨Amount.sat (wallet.balance / Pricing.msatsPerSat), none⟩
    | .error cause => ⟨Amount.sat 0, some ("ZBD status check failed: " ++ cause.message)⟩
  (response, ⟨x, s.slot⟩)

/-- An amount in millisatoshis; only dollars need an exchange rate. -/
def toMsats (b : Backend) (amount : Amount) (s : Surroundings) :
    Except BackendError UInt64 × Surroundings :=
  match amount.unit with
  | .sat => (Pricing.satsToMsats amount.value, s)
  | .usd =>
    match b.exchangeRate s with
    | (.ok rate, s') => (Pricing.centsToMsats amount.value rate, s')
    | (.error cause, s') => (.error cause, s')
  | unit => (.error (.unsupportedUnit unit), s)

/-- An empty memo counts as none. -/
def chargeRequest (b : Backend) (msats : UInt64) (memo : Option String) : ChargeRequest where
  amount := Text.ofNat msats.toNat
  description := (memo.bind Settings.nonEmpty).getD b.invoiceDescription
  expiresIn := b.invoiceExpirySecs
  callbackUrl := b.callbackUrl

/-- What is said when an amount cannot be priced. -/
def pricingFailure : BackendError → String
  | .rateUnavailable cause =>
    "Exchange rate error: " ++ (BackendError.rateUnavailable cause).message
  | cause => cause.message

/-- What a charge, or the failure to make one, means for the invoice. -/
def invoiceOf : Except ClientError Charge → InvoiceResponse
  | .ok ⟨id, _, some invoice⟩ => .created id invoice.request
  | .ok ⟨id, _, none⟩ =>
    .failed ("ZBD create_invoice failed: charge " ++ id ++ " has no invoice")
  | .error cause => .failed ("ZBD create_invoice failed: " ++ cause.message)

def createInvoice (b : Backend) (amount : Amount) (memo : Option String) (s : Surroundings) :
    InvoiceResponse × Surroundings :=
  if amount.unit ∉ supportedUnits then
    (.failed (BackendError.unsupportedUnit amount.unit).message, s)
  else
    match b.toMsats amount s with
    | (.error cause, s') => (.failed (pricingFailure cause), s')
    | (.ok msats, s') =>
      let (answer, x) := b.client.createCharge (b.chargeRequest msats memo) s'.exchange
      (invoiceOf answer, ⟨x, s'.slot⟩)

def invoiceStatus (b : Backend) (checkingId : String) (s : Surroundings) :
    PaymentStatus × Surroundings :=
  let (answer, x) := b.client.charge checkingId s.exchange
  let status : PaymentStatus :=
    match answer with
    | .ok charge => .of charge.status.result
    | .error cause => .unknown ("ZBD get_invoice_status failed: " ++ cause.message)
  (status, ⟨x, s.slot⟩)

def payInvoice (_ : Backend) (_quote : MeltQuote) (_feeLimitMsat : UInt64) :
    Except BackendError PaymentResponse :=
  .error (.unsupported "Melt (pay_invoice) is disabled for ZBD")

def paymentStatus (_ : Backend) (_checkingId : String) : Except BackendError PaymentStatus :=
  .error (.unsupported "Melt (get_payment_status) is disabled for ZBD")

def paymentQuote (_ : Backend) (_request : MeltQuoteRequest) :
    Except BackendError PaymentQuoteResponse :=
  .error (.unsupported "Melt (get_payment_quote) is disabled for ZBD")

end Backend

end LightningDeposit
