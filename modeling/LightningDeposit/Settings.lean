import LightningDeposit.Json.Decode

/-!
Settings of a backend: a record in which every field has a default, and an overlay by environment
variables, each of which touches its own field only. The defaults are stated for the record as a
whole and once more for each field that an object may lack.
-/

namespace LightningDeposit

def defaultApiUrl : String := "https://api.zebedee.io"

structure Settings where
  apiKey : String
  apiUrl : String
  callbackUrl : Option String
  redisUrl : Option String
  invoiceExpirySecs : UInt64
  invoiceDescription : String
  timeoutMs : UInt64
  deriving DecidableEq

/-- Variables by name; a value is bytes and need not be a text. -/
abbrev Environment := List (String × ByteArray)

namespace Environment

/-- The text of a variable; one that is not a text counts as not set. -/
def text? (env : Environment) (name : String) : Option String :=
  (env.lookup name).bind String.fromUTF8?

end Environment

namespace Settings

/-- A quarter of an hour. -/
def defaultInvoiceExpirySecs : UInt64 := 900

def defaultInvoiceDescription : String := "Cashu mint deposit"

def defaultTimeoutMs : UInt64 := 30000

def default : Settings where
  apiKey := ""
  apiUrl := defaultApiUrl
  callbackUrl := none
  redisUrl := none
  invoiceExpirySecs := defaultInvoiceExpirySecs
  invoiceDescription := defaultInvoiceDescription
  timeoutMs := defaultTimeoutMs

/-- The defaults with an API key. -/
def ofApiKey (key : String) : Settings :=
  { default with apiKey := key }

def toJson (s : Settings) : Json :=
  Json.record [("api_key", Json.text s.apiKey), ("api_url", Json.text s.apiUrl),
    ("callback_url", Json.optional Json.text s.callbackUrl),
    ("redis_url", Json.optional Json.text s.redisUrl),
    ("invoice_expiry_secs", Json.word s.invoiceExpirySecs),
    ("invoice_description", Json.text s.invoiceDescription),
    ("timeout_ms", Json.word s.timeoutMs)]

def ofJson? (v : Json) : Option Settings := do
  let field ← v.fields? ["api_key", "api_url", "callback_url", "redis_url",
    "invoice_expiry_secs", "invoice_description", "timeout_ms"]
  return {
    apiKey := ← (field "api_key").withDefault "" Json.string?
    apiUrl := ← (field "api_url").withDefault defaultApiUrl Json.string?
    callbackUrl := ← (field "callback_url").withDefault none (Json.nullable? Json.string?)
    redisUrl := ← (field "redis_url").withDefault none (Json.nullable? Json.string?)
    invoiceExpirySecs := ←
      (field "invoice_expiry_secs").withDefault defaultInvoiceExpirySecs Json.word?
    invoiceDescription := ←
      (field "invoice_description").withDefault defaultInvoiceDescription Json.string?
    timeoutMs := ← (field "timeout_ms").withDefault defaultTimeoutMs Json.word? }

/-- A text that is there and not empty. -/
def nonEmpty (s : String) : Option String :=
  if s = "" then none else some s

/-- A variable that holds a numeral replaces the number. -/
def overlayWord (current : UInt64) (text : Option String) : UInt64 :=
  (text.bind fun s => Text.readWord? s.toList).getD current

/-- A variable that is set replaces an address, and clears it when it is empty. -/
def overlayUrl (current : Option String) : Option String → Option String
  | none => current
  | some s => nonEmpty s

/-- The settings under an environment. -/
def overlay (s : Settings) (env : Environment) : Settings where
  apiKey := (env.text? "CDK_MINTD_ZBD_API_KEY").getD s.apiKey
  apiUrl := (env.text? "CDK_MINTD_ZBD_API_URL").getD s.apiUrl
  callbackUrl := overlayUrl s.callbackUrl (env.text? "CDK_MINTD_ZBD_CALLBACK_URL")
  redisUrl := overlayUrl s.redisUrl (env.text? "CDK_MINTD_ZBD_REDIS_URL")
  invoiceExpirySecs := overlayWord s.invoiceExpirySecs (env.text? "CDK_MINTD_ZBD_INVOICE_EXPIRY")
  invoiceDescription := s.invoiceDescription
  timeoutMs := overlayWord s.timeoutMs (env.text? "CDK_MINTD_ZBD_TIMEOUT_MS")

end Settings

end LightningDeposit
