import LightningDeposit.Client
import Mathlib.Data.Nat.Notation

/-!
What a call sends and what it makes of the reply. A call either sends its one request, and then its
result is the judgement of that turn's reply, or fails and leaves everything as it was; which of the
two depends on the client and on whether the far side can be reached, not on the call or its path.
-/

namespace LightningDeposit

namespace Exchange

/-- The turn that the next request meets. -/
def turn (x : Exchange) : Turn := x.script.headD exhausted

/-- What a request leaves behind that has reached the far side. -/
def after (x : Exchange) (request : Request) : Exchange :=
  ⟨x.turn.clock.getD x.clock, x.reachable, x.script.drop 1, x.sent ++ [request]⟩

theorem send_of_reachable {x : Exchange} (h : x.reachable = true) (request : Request) :
    x.send request = (x.turn.reply, x.after request) := by
  simp [send, h, turn, after]

theorem send_of_not_reachable {x : Exchange} (h : x.reachable = false) (request : Request) :
    x.send request = (.broken, x) := by
  simp [send, h]

/-- From one exchange to another just these requests have been made, one for each turn taken. -/
structure Sends (x : Exchange) (made : List Request) (y : Exchange) : Prop where
  sent : y.sent = x.sent ++ made
  script : y.script = x.script.drop made.length
  reachable : y.reachable = x.reachable

theorem Sends.none (x : Exchange) : Sends x [] x :=
  ⟨(List.append_nil _).symm, rfl, rfl⟩

theorem Sends.one (x : Exchange) (request : Request) : Sends x [request] (x.after request) :=
  ⟨rfl, rfl, rfl⟩

theorem Sends.trans {x y z : Exchange} {first rest : List Request} (h : Sends x first y)
    (h' : Sends y rest z) : Sends x (first ++ rest) z := by
  refine ⟨?_, ?_, h'.reachable.trans h.reachable⟩
  · rw [h'.sent, h.sent, List.append_assoc]
  · rw [h'.script, h.script, List.drop_drop, List.length_append]

theorem Sends.unique {x y : Exchange} {made others : List Request} (h : Sends x made y)
    (h' : Sends x others y) : made = others :=
  List.append_cancel_left (h.sent.symm.trans h'.sent)

/-- The turn of a later request is found in the script by the number of those before it. -/
theorem Sends.turn {x y : Exchange} {made : List Request} (h : Sends x made y) :
    y.turn = x.script.getD made.length exhausted := by
  rw [Exchange.turn, h.script, List.headD_eq_head?_getD, List.head?_drop,
    List.getD_eq_getElem?_getD]

end Exchange

/-- A complete response of a success status whose body is an envelope of that data. -/
def Reply.Holds {α : Type} (decode : Json → Option α) (reply : Reply) (data : α) : Prop :=
  ∃ status body v envelope, reply = .response status body ∧ 200 ≤ status ∧ status ≤ 299 ∧
    Json.parse? (Text.ofBytesLossy body) = some v ∧
    Envelope.ofJson? decode v = some envelope ∧ envelope.data = data

namespace Client

theorem judge_eq_ok_iff {α : Type} {decode : Json → Option α} {reply : Reply} {data : α} :
    judge decode reply = .ok data ↔ reply.Holds decode data := by
  constructor
  · intro h
    unfold judge at h
    split at h
    next => cases h
    next => cases h
    next status body =>
      simp only at h
      split at h
      next hstatus =>
        split at h
        next envelope henvelope =>
          obtain ⟨v, hv, hdecode⟩ := Option.bind_eq_some_iff.mp henvelope
          cases h
          exact ⟨status, body, v, envelope, rfl, hstatus.1, hstatus.2, hv, hdecode, rfl⟩
        next => cases h
      next =>
        split at h <;> cases h
  · rintro ⟨status, body, v, envelope, rfl, hlow, hhigh, hv, hdecode, rfl⟩
    simp [judge, hlow, hhigh, hv, hdecode]

/-- The address of these segments on the client's host, as a request shows it. -/
def below (c : Client) (segments : List String) : Url :=
  { c.baseUrl with
    username := "", password := "", path := .segments segments, query := none, fragment := none }

/-- The request of a call at these segments. -/
def request (c : Client) (method : String) (segments : List String) (body : Option String) :
    Request :=
  ⟨method, c.below segments, headerText c.apiKey, "application/json", body⟩

/-- The key can stand in a header, and the address has a root and can be connected to. -/
def CanSend (c : Client) (x : Exchange) : Prop :=
  x.reachable = true ∧ isHeaderText c.apiKey = true ∧ c.baseUrl.scheme ∈ requestSchemes ∧
    ∃ segments, c.baseUrl.path = .segments segments

theorem canSend_of_sends {c : Client} {x y : Exchange} {made : List Request}
    (h : x.Sends made y) : c.CanSend y ↔ c.CanSend x := by
  rw [CanSend, CanSend, h.reachable]

end Client

namespace Url

/-- A path that leads to these segments from every root and brings in no query. -/
def LeadsTo (path : String) (segments : List String) : Prop :=
  ∀ special, (cutAt '#' (clean path)).2 = none ∧ (cutAt '?' (cutAt '#' (clean path)).1).2 = none ∧
    pathSegments special ((cutAt '?' (cutAt '#' (clean path)).1).1.drop 1) = segments

theorem join_of_leadsTo {base : Url} {root segments : List String} {path : String}
    (h : LeadsTo path segments) (hbase : base.path = .segments root) :
    base.join path =
      .ok { base with path := .segments segments, query := none, fragment := none } := by
  obtain ⟨hfragment, hquery, hsegments⟩ := h (isSpecial base.scheme)
  simp only [join, hbase, hfragment, hquery, hsegments]
  rfl

/-- From an address that has a root every path leads somewhere. -/
theorem join_of_rooted {base : Url} {root : List String} (hbase : base.path = .segments root)
    (path : String) : ∃ url, base.join path = .ok url := by
  unfold join
  rw [hbase]
  exact ⟨_, rfl⟩

theorem rooted_of_join {base url : Url} {path : String} (h : base.join path = .ok url) :
    ∃ root, base.path = .segments root := by
  cases hbase : base.path with
  | text s => simp [join, hbase] at h
  | segments root => exact ⟨root, rfl⟩

theorem leadsTo_price : LeadsTo "/v1/btcusd" ["v1", "btcusd"] := by
  intro special
  cases special <;> decide

theorem leadsTo_charges : LeadsTo "/v1/charges" ["v1", "charges"] := by
  intro special
  cases special <;> decide

end Url

namespace Client

variable {α : Type} {c : Client} {x : Exchange} {path : String} {segments : List String}

/-- A call that can be sent is judged by the reply of the next turn, whatever its path brings in. -/
theorem call_of_join {url : Url} (h : c.CanSend x) (hjoin : c.baseUrl.join path = .ok url)
    (method : String) (body : Option String) (decode : Json → Option α) :
    c.call method path body decode x = (judge decode x.turn.reply,
      x.after ⟨method, url.requested, headerText c.apiKey, "application/json", body⟩) := by
  obtain ⟨hreach, hkey, hscheme, -⟩ := h
  rw [← (Url.join_keeps_authority hjoin).1] at hscheme
  simp only [call, hjoin, request?, hkey, hscheme, and_self, ↓reduceIte,
    Exchange.send_of_reachable hreach]

theorem call_of_canSend (h : c.CanSend x) (hpath : Url.LeadsTo path segments) (method : String)
    (body : Option String) (decode : Json → Option α) :
    c.call method path body decode x =
      (judge decode x.turn.reply, x.after (c.request method segments body)) := by
  obtain ⟨root, hroot⟩ := h.2.2.2
  rw [call_of_join h (Url.join_of_leadsTo hpath hroot)]
  rfl

/-- A call that can be sent makes one request, to wherever its path leads. -/
theorem call_sends (h : c.CanSend x) (method path : String) (body : Option String)
    (decode : Json → Option α) : ∃ request,
      c.call method path body decode x = (judge decode x.turn.reply, x.after request) := by
  obtain ⟨root, hroot⟩ := h.2.2.2
  obtain ⟨url, hjoin⟩ := Url.join_of_rooted hroot path
  exact ⟨_, call_of_join h hjoin method body decode⟩

/-- A call that cannot be sent to an address that can be told. -/
theorem call_of_join_not_canSend {url : Url} (h : ¬c.CanSend x)
    (hjoin : c.baseUrl.join path = .ok url) (method : String) (body : Option String)
    (decode : Json → Option α) : c.call method path body decode x = (.error .transport, x) := by
  obtain ⟨root, hbase⟩ := Url.rooted_of_join hjoin
  simp only [call, hjoin]
  cases hrequest : c.request? method url body with
  | none => rfl
  | some request =>
    have hkey : isHeaderText c.apiKey = true ∧ url.scheme ∈ requestSchemes := by
      simp only [request?] at hrequest
      split at hrequest
      next hallowed => exact hallowed
      next => cases hrequest
    rw [(Url.join_keeps_authority hjoin).1] at hkey
    have hreach : x.reachable = false := by
      rw [← Bool.not_eq_true]
      exact fun hreach => h ⟨hreach, hkey.1, hkey.2, root, hbase⟩
    simp [Exchange.send_of_not_reachable hreach, judge]

/-- A call that cannot be sent fails and changes nothing. -/
theorem call_of_not_canSend (h : ¬c.CanSend x) (method path : String) (body : Option String)
    (decode : Json → Option α) : ∃ cause, c.call method path body decode x = (.error cause, x) := by
  cases hjoin : c.baseUrl.join path with
  | error cause => exact ⟨.invalidUrl cause, by simp [call, hjoin]⟩
  | ok url => exact ⟨.transport, call_of_join_not_canSend h hjoin method body decode⟩

/-- The request for the price of a bitcoin. -/
def priceRequest (c : Client) : Request :=
  c.request "GET" ["v1", "btcusd"] none

/-- The request for a new charge. -/
def newChargeRequest (c : Client) (charge : ChargeRequest) : Request :=
  c.request "POST" ["v1", "charges"] (some charge.toJson.write)

theorem bitcoinPrice_of_canSend (h : c.CanSend x) : c.bitcoinPrice x =
    ((judge (Price.ofJson? 1) x.turn.reply).map Price.price, x.after c.priceRequest) := by
  rw [bitcoinPrice, call_of_canSend h Url.leadsTo_price]
  rfl

theorem bitcoinPrice_of_not_canSend (h : ¬c.CanSend x) :
    ∃ cause, c.bitcoinPrice x = (.error cause, x) := by
  obtain ⟨cause, hcall⟩ := call_of_not_canSend h "GET" "/v1/btcusd" none (Price.ofJson? 1)
  refine ⟨cause, ?_⟩
  rw [bitcoinPrice, hcall]
  rfl

theorem createCharge_of_canSend (h : c.CanSend x) (charge : ChargeRequest) :
    c.createCharge charge x =
      (judge Charge.ofJson? x.turn.reply, x.after (c.newChargeRequest charge)) :=
  call_of_canSend h Url.leadsTo_charges _ _ _

theorem createCharge_of_not_canSend (h : ¬c.CanSend x) (charge : ChargeRequest) :
    ∃ cause, c.createCharge charge x = (.error cause, x) :=
  call_of_not_canSend h _ _ _ _

end Client

end LightningDeposit
