import LightningDeposit.Charge.Status

/-!
The provider's data: the envelope around every answer, the wallet, the price of a bitcoin, charges
and the requests for them. Amounts are in millisatoshis and may come as numbers or as texts.
-/

namespace LightningDeposit

/-- The envelope of an answer. -/
structure Envelope (α : Type) where
  success : Option Bool
  data : α
  message : Option String
  deriving DecidableEq

namespace Envelope

def toJson {α : Type} (encode : α → Json) (e : Envelope α) : Json :=
  Json.record [("success", Json.optional Json.bool e.success), ("data", encode e.data),
    ("message", Json.optional Json.text e.message)]

def ofJson? {α : Type} (decode : Json → Option α) (v : Json) : Option (Envelope α) := do
  let field ← v.fields? ["success", "data", "message"]
  return {
    success := ← (field "success").withDefault none (Json.nullable? Json.bool?)
    data := ← (field "data").required decode
    message := ← (field "message").withDefault none (Json.nullable? Json.string?) }

end Envelope

structure Wallet where
  balance : UInt64
  unit : Option String
  deriving DecidableEq

namespace Wallet

def toJson (w : Wallet) : Json :=
  Json.record [("balance", Json.word w.balance), ("unit", Json.optional Json.text w.unit)]

def ofJson? (v : Json) : Option Wallet := do
  let field ← v.fields? ["balance", "unit"]
  return {
    balance := ← (field "balance").withDefault 0 Json.wordOrText?
    unit := ← (field "unit").withDefault none (Json.nullable? Json.string?) }

end Wallet

/-- The price of one bitcoin in dollars; the time of the quotation is kept as it came. -/
structure Price where
  price : Binary64
  timestamp : Option Json

namespace Price

/-- Reads a price that stands inside `enclosing` open containers. -/
def ofJson? (enclosing : Nat) (v : Json) : Option Price := do
  let field ← v.fields? ["btcUsdPrice", "btcUsdTimestamp"]
  let room := Json.maxDepth - (enclosing + 1)
  return {
    price := ← (field "btcUsdPrice").required Json.doubleOrText?
    timestamp := ←
      (field "btcUsdTimestamp").withDefault none (Json.nullable? (Json.data? room)) }

end Price

structure ChargeRequest where
  amount : String
  description : String
  expiresIn : UInt64
  callbackUrl : Option String
  deriving DecidableEq

namespace ChargeRequest

/-- Without a callback there is no member for it. -/
def toJson (r : ChargeRequest) : Json :=
  Json.record ([("amount", Json.text r.amount), ("description", Json.text r.description),
    ("expiresIn", Json.word r.expiresIn)] ++
    (r.callbackUrl.map fun url => ("callbackUrl", Json.text url)).toList)

def ofJson? (v : Json) : Option ChargeRequest := do
  let field ← v.fields? ["amount", "description", "expiresIn", "callbackUrl"]
  return {
    amount := ← (field "amount").required Json.string?
    description := ← (field "description").required Json.string?
    expiresIn := ← (field "expiresIn").required Json.word?
    callbackUrl := ← (field "callbackUrl").optional Json.string? }

end ChargeRequest

/-- The lightning invoice of a charge. -/
structure ChargeInvoice where
  request : String
  uri : Option String
  deriving DecidableEq

namespace ChargeInvoice

def toJson (i : ChargeInvoice) : Json :=
  Json.record [("request", Json.text i.request), ("uri", Json.optional Json.text i.uri)]

def ofJson? (v : Json) : Option ChargeInvoice := do
  let field ← v.fields? ["request", "uri"]
  return {
    request := ← (field "request").required Json.string?
    uri := ← (field "uri").withDefault none (Json.nullable? Json.string?) }

end ChargeInvoice

/-- A charge; one without a status is pending. -/
structure Charge where
  id : String
  status : ChargeStatus
  invoice : Option ChargeInvoice
  deriving DecidableEq

namespace Charge

def toJson (c : Charge) : Json :=
  Json.record [("id", Json.text c.id), ("status", c.status.toJson),
    ("invoice", Json.optional ChargeInvoice.toJson c.invoice)]

def ofJson? (v : Json) : Option Charge := do
  let field ← v.fields? ["id", "status", "invoice"]
  return {
    id := ← (field "id").required Json.string?
    status := ← (field "status").withDefault .pending ChargeStatus.ofJson?
    invoice := ← (field "invoice").withDefault none (Json.nullable? ChargeInvoice.ofJson?) }

end Charge

/-- The body of a refusal. -/
structure Refusal where
  success : Bool
  message : Option String
  deriving DecidableEq

namespace Refusal

def toJson (r : Refusal) : Json :=
  Json.record [("success", .bool r.success), ("message", Json.optional Json.text r.message)]

def ofJson? (v : Json) : Option Refusal := do
  let field ← v.fields? ["success", "message"]
  return {
    success := ← (field "success").withDefault false Json.bool?
    message := ← (field "message").withDefault none (Json.nullable? Json.string?) }

end Refusal

end LightningDeposit
