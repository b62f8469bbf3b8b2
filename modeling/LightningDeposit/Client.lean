import LightningDeposit.Charge.Wire
import LightningDeposit.Error
import LightningDeposit.Json.Reader
import LightningDeposit.Json.Writer
import LightningDeposit.Settings
import LightningDeposit.Text.Quoted
import LightningDeposit.Text.Utf8
import LightningDeposit.Url.Parser

/-!
The client of the provider. What the far side does is a script of turns, one for each request that
reaches it; a call sends at most one request and says what its answer is worth.
-/

namespace LightningDeposit

/-- A request as the far side sees it. -/
structure Request where
  method : String
  url : Url
  apiKey : String
  accept : String
  body : Option String
  deriving DecidableEq

/-- What comes back for a request: a complete response, one whose body breaks off or does not come
in time, or none. -/
inductive Reply where
  | response (status : Nat) (body : ByteArray)
  | cutOff (status : Nat)
  | broken

/-- One turn of the far side; the clock may move before the response is there. -/
structure Turn where
  reply : Reply
  clock : Option Nat

/-- The world around a call: the clock, the far side's next turns, whether it can be reached at all,
and the requests that have reached it, the latest last. -/
structure Exchange where
  clock : Nat
  reachable : Bool
  script : List Turn
  sent : List Request

namespace Exchange

/-- The turn after the end of a script. -/
def exhausted : Turn := ⟨.response 500 "script exhausted".toUTF8, none⟩

/-- Sends a request that can be sent. -/
def send (x : Exchange) (request : Request) : Reply × Exchange :=
  if x.reachable then
    let turn := x.script.headD exhausted
    (turn.reply, ⟨turn.clock.getD x.clock, true, x.script.drop 1, x.sent ++ [request]⟩)
  else (.broken, x)

end Exchange

structure Client where
  apiKey : String
  baseUrl : Url
  deriving DecidableEq

namespace Client

/-- A client for an address; nothing is sent yet. -/
def new (apiKey : String) (url : Option String) : Except UrlError Client :=
  match Url.parse (url.getD defaultApiUrl) with
  | .ok baseUrl => .ok ⟨apiKey, baseUrl⟩
  | .error cause => .error cause

/-- What diagnostics show of a client; the key is not part of it. -/
def debugText (c : Client) : String :=
  "ZbdApi \x7b base_url: " ++ Text.quoted c.baseUrl.text ++ ", .. \x7d"

/-- A header cannot hold controls other than tabs. -/
def isHeaderText (s : String) : Bool :=
  s.toList.all fun c => decide ((0x20 ≤ c.toNat ∨ c.toNat = 9) ∧ c.toNat ≠ 0x7F)

/-- Spaces and tabs around a header's text are not part of it. -/
def headerText (s : String) : String :=
  String.ofList (Text.strip (fun c => c == ' ' || c == '\t') s.toList)

/-- The schemes by which requests can be sent. -/
def requestSchemes : List String := ["http", "https"]

/-- The request that a call sends, if its key and its address allow one. -/
def request? (c : Client) (method : String) (url : Url) (body : Option String) : Option Request :=
  if isHeaderText c.apiKey ∧ url.scheme ∈ requestSchemes then
    some ⟨method, url.requested, headerText c.apiKey, "application/json", body⟩
  else none

/-- What a reply is worth to a call that expects data: only a complete response of a success status
with the expected data is good. A response has to be complete before its status is looked at. -/
def judge {α : Type} (decode : Json → Option α) : Reply → Except ClientError α
  | .broken => .error .transport
  | .cutOff _ => .error .transport
  | .response status body =>
    let text := Text.ofBytesLossy body
    if 200 ≤ status ∧ status ≤ 299 then
      match (Json.parse? text).bind (Envelope.ofJson? decode) with
      | some envelope => .ok envelope.data
      | none => .error .unreadable
    else if status = 404 then .error .notFound
    else
      let reason := (Json.parse? text).bind fun v => (Refusal.ofJson? v).bind Refusal.message
      .error (.refused status (reason.getD text))

/-- One call: an address below the base, one request if it can be sent, and its judgement. -/
def call {α : Type} (c : Client) (method path : String) (body : Option String)
    (decode : Json → Option α) (x : Exchange) : Except ClientError α × Exchange :=
  match c.baseUrl.join path with
  | .error cause => (.error (.invalidUrl cause), x)
  | .ok url =>
    match c.request? method url body with
    | none => (.error .transport, x)
    | some request =>
      let (reply, y) := x.send request
      (judge decode reply, y)

def wallet (c : Client) : Exchange → Except ClientError Wallet × Exchange :=
  c.call "GET" "/v1/wallet" none Wallet.ofJson?

/-- The price of a bitcoin as reported, whatever number it is. -/
def bitcoinPrice (c : Client) (x : Exchange) : Except ClientError Binary64 × Exchange :=
  let (answer, y) := c.call "GET" "/v1/btcusd" none (Price.ofJson? 1) x
  (answer.map Price.price, y)

def createCharge (c : Client) (request : ChargeRequest) :
    Exchange → Except ClientError Charge × Exchange :=
  c.call "POST" "/v1/charges" (some request.toJson.write) Charge.ofJson?

def charge (c : Client) (id : String) : Exchange → Except ClientError Charge × Exchange :=
  c.call "GET" ("/v1/charges/" ++ id) none Charge.ofJson?

end Client

end LightningDeposit
