import LightningDeposit.Binary64.Shortest
import LightningDeposit.Currency
import LightningDeposit.Url.Basic

/-!
Causes of failure. A client error says what went wrong with one request to the provider; a backend
error adds what goes wrong before or around requests.
-/

namespace LightningDeposit

inductive ClientError where
  | notFound
  | invalidUrl (cause : UrlError)
  | transport
  | unreadable
  | refused (status : Nat) (reason : String)
  | invalidRate (rate : Binary64)
  deriving DecidableEq

namespace ClientError

def message : ClientError → String
  | .notFound => "Not found"
  | .invalidUrl cause => "Invalid URL: " ++ cause.message
  | .transport => "HTTP error: no complete response"
  | .unreadable => "JSON error: not the expected data"
  | .refused status reason => "ZBD API error (" ++ Text.ofNat status ++ "): " ++ reason
  | .invalidRate rate => "Invalid exchange rate received from ZBD: " ++ rate.text

end ClientError

inductive BackendError where
  | missingApiKey
  | unsupportedUnit (unit : CurrencyUnit)
  | streamTransportUnavailable
  | missingStreamEndpoint
  | rateUnavailable (cause : ClientError)
  | invalidRate (rate : Binary64)
  | amountOverflow
  | unsupported (operation : String)
  | client (cause : ClientError)
  | broker
  deriving DecidableEq

namespace BackendError

def message : BackendError → String
  | .missingApiKey => "ZBD API key is required"
  | .unsupportedUnit unit => "Unsupported unit: " ++ unit.name
  | .streamTransportUnavailable => "Paid invoice stream requires the `redis` feature"
  | .missingStreamEndpoint => "Redis URL is required for the paid invoice stream"
  | .rateUnavailable cause => "Failed to fetch exchange rate from ZBD: " ++ cause.message
  | .invalidRate rate => "Invalid exchange rate: " ++ rate.text
  | .amountOverflow => "Amount overflow"
  | .unsupported operation => operation
  | .client cause => cause.message
  | .broker => "No connection to the message broker"

/-- The error comes from how the backend was set up. -/
def isConfiguration : BackendError → Bool
  | .missingApiKey | .unsupportedUnit _ | .streamTransportUnavailable
  | .missingStreamEndpoint => true
  | _ => false

end BackendError

end LightningDeposit
