import LightningDeposit.Backend

/-!
What a backend can be asked for while it is at work, as data: which operation, with which arguments,
and what it answers.
-/

namespace LightningDeposit

inductive Operation where
  | status
  | invoice (amount : Amount) (memo : Option String)
  | charge (id : String)
  | rate
  | pay (quote : MeltQuote) (feeLimitMsat : UInt64)
  | payment (id : String)
  | quote (request : MeltQuoteRequest)

/-- An answer, of the kind that its operation gives. -/
inductive Outcome where
  | status (response : StatusResponse)
  | invoice (response : InvoiceResponse)
  | charge (status : PaymentStatus)
  | rate (answer : Except BackendError Binary64)
  | pay (answer : Except BackendError PaymentResponse)
  | payment (answer : Except BackendError PaymentStatus)
  | quote (answer : Except BackendError PaymentQuoteResponse)

namespace Operation

def run (operation : Operation) (b : Backend) (s : Surroundings) : Outcome × Surroundings :=
  match operation with
  | .status => (b.status s).map .status id
  | .invoice amount memo => (b.createInvoice amount memo s).map .invoice id
  | .charge checkingId => (b.invoiceStatus checkingId s).map .charge id
  | .rate => (b.exchangeRate s).map .rate id
  | .pay melt feeLimitMsat => (.pay (b.payInvoice melt feeLimitMsat), s)
  | .payment checkingId => (.payment (b.paymentStatus checkingId), s)
  | .quote request => (.quote (b.paymentQuote request), s)

/-- Where an operation may ask, below the base. -/
def paths : Operation → List String
  | .status => ["/v1/wallet"]
  | .invoice _ _ => ["/v1/btcusd", "/v1/charges"]
  | .charge id => ["/v1/charges/" ++ id]
  | .rate => ["/v1/btcusd"]
  | .pay _ _ => []
  | .payment _ => []
  | .quote _ => []

end Operation

end LightningDeposit
