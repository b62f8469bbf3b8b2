import LightningDeposit.Proofs.Charge.Shape
import LightningDeposit.Proofs.Client.Call

/-!
What every call of the client makes of every reply. The bodies that are answers or refusals are told
without their readers; between them they leave no complete response without a verdict, and none with
two. Where no response is complete there is one verdict for all, whatever came of it.
-/

namespace LightningDeposit

open Json (HasFields)

/-- The text is an envelope around data that can be read. -/
def Envelope.Delivers {α : Type} (decode : Json → Option α) (text : String) (data : α) : Prop :=
  ∃ v inner, Json.parse? text = some v ∧ Carries v inner ∧ decode inner = some data

namespace Refusal

/-- A refusal with that message. It may leave out whether it is a success, but a message of null is
none. -/
def Says (v : Json) (message : String) : Prop :=
  ∃ success, HasFields ["success", "message"] v [success, some (Json.text message)] ∧
    ∀ s ∈ success, ∃ b, s = .bool b

/-- What is given as the reason of a refusal: its message, and the text itself where there is none. -/
inductive Reason (text : String) : String → Prop
  | said {v : Json} {message : String} (hv : Json.parse? text = some v) (h : Says v message) :
    Reason text message
  | verbatim (h : ∀ v message, Json.parse? text = some v → ¬Says v message) : Reason text text

theorem says_iff {v : Json} {message : String} :
    Says v message ↔ (ofJson? v).bind Refusal.message = some message := by
  have hnames : ["success", "message"].Nodup := by decide
  have hbool (f : Json.Field) : (∃ b, f.withDefault false Json.bool? = some b) ↔
      ∀ w ∈ f.value?, ∃ b, w = Json.bool b := by
    simp only [Json.Field.withDefault_isSome_iff, Json.bool?_eq_some_iff]
  have htext (f : Json.Field) :
      f.withDefault none (Json.nullable? Json.string?) = some (some message) ↔
        f.value? = some (Json.text message) := by
    cases hvalue : f.value? with
    | none => simp [Json.Field.withDefault_of_none hvalue]
    | some w =>
      rw [Json.Field.withDefault_of_value? hvalue, Option.some.injEq]
      cases w <;> simp [Json.nullable?, Json.string?, Json.text]
  constructor
  · rintro ⟨success, hfields, hsuccess⟩
    obtain ⟨field, hfield, hvalues⟩ := (Json.hasFields_iff hnames).mp hfields
    simp only [List.map_cons, List.map_nil, List.cons.injEq, and_true] at hvalues
    obtain ⟨rfl, hmessage⟩ := hvalues
    obtain ⟨b, hb⟩ := (hbool _).mpr hsuccess
    simp [ofJson?, hfield, hb, (htext _).mpr hmessage]
  · intro h
    simp only [ofJson?, Option.bind_eq_bind, Option.bind_eq_some_iff, Option.pure_def] at h
    obtain ⟨_, ⟨field, hfield, b, hb, _, hmessage, ⟨⟩⟩, rfl⟩ := h
    refine ⟨(field "success").value?, ?_, (hbool _).mp ⟨b, hb⟩⟩
    exact (Json.hasFields_iff hnames).mpr ⟨field, hfield, by simp [(htext _).mp hmessage]⟩

/-- A text gives the reason that is read out of it, and no other. -/
theorem reason_iff {text reason : String} : Reason text reason ↔
    ((Json.parse? text).bind fun v => (ofJson? v).bind Refusal.message).getD text = reason := by
  cases hsaid : (Json.parse? text).bind fun v => (ofJson? v).bind Refusal.message with
  | none =>
    have hnone : ∀ v message, Json.parse? text = some v → ¬Says v message := by
      intro v message hv hsays
      rw [hv, Option.bind_some, says_iff.mp hsays] at hsaid
      cases hsaid
    constructor
    · intro h
      cases h with
      | said hv hsays => exact absurd hsays (hnone _ _ hv)
      | verbatim => rfl
    · rintro rfl
      exact .verbatim hnone
  | some message =>
    obtain ⟨v, hv, hmessage⟩ := Option.bind_eq_some_iff.mp hsaid
    have hsays : Says v message := says_iff.mpr hmessage
    constructor
    · intro h
      cases h with
      | said hv' hsays' =>
        cases hv.symm.trans hv'
        exact Option.some.inj (hmessage.symm.trans (says_iff.mp hsays'))
      | verbatim hnone => exact absurd hsays (hnone v message hv)
    · rintro rfl
      exact .said hv hsays

theorem exists_reason (text : String) : ∃ reason, Reason text reason :=
  ⟨_, reason_iff.mpr rfl⟩

end Refusal

namespace Client

section Judging

variable {α : Type} {decode : Json → Option α} {status : ℕ} {body : ByteArray}

theorem judge_of_delivers {data : α} (hstatus : 200 ≤ status ∧ status ≤ 299)
    (h : Envelope.Delivers decode (Text.ofBytesLossy body) data) :
    judge decode (.response status body) = .ok data := by
  obtain ⟨v, inner, hv, hcarries, hread⟩ := h
  obtain ⟨envelope, henvelope, hdata⟩ := Envelope.ofJson?_iff.mpr ⟨inner, hcarries, hread⟩
  exact judge_eq_ok_iff.mpr
    ⟨status, body, v, envelope, rfl, hstatus.1, hstatus.2, hv, henvelope, hdata⟩

theorem judge_of_not_delivers (hstatus : 200 ≤ status ∧ status ≤ 299)
    (h : ∀ data, ¬Envelope.Delivers decode (Text.ofBytesLossy body) data) :
    judge decode (.response status body) = .error .unreadable := by
  have hnone : (Json.parse? (Text.ofBytesLossy body)).bind (Envelope.ofJson? decode) = none := by
    rw [Option.eq_none_iff_forall_ne_some]
    intro envelope henvelope
    obtain ⟨v, hv, hread⟩ := Option.bind_eq_some_iff.mp henvelope
    obtain ⟨inner, hcarries, hdata⟩ := Envelope.ofJson?_iff.mp ⟨envelope, hread, rfl⟩
    exact h _ ⟨v, inner, hv, hcarries, hdata⟩
  simp only [judge, hstatus, and_self, ↓reduceIte, hnone]

theorem judge_of_reason {reason : String} (hstatus : ¬(200 ≤ status ∧ status ≤ 299))
    (hfound : status ≠ 404) (h : Refusal.Reason (Text.ofBytesLossy body) reason) :
    judge decode (.response status body) = .error (.refused status reason) := by
  simp only [judge, hstatus, hfound, ↓reduceIte, Refusal.reason_iff.mp h]

/-- The verdict on a complete response with that status and text. -/
inductive Verdict (decode : Json → Option α) (status : ℕ) (text : String) :
    Except ClientError α → Prop
  | delivered {data : α} (hstatus : 200 ≤ status ∧ status ≤ 299)
    (h : Envelope.Delivers decode text data) : Verdict decode status text (.ok data)
  | unreadable (hstatus : 200 ≤ status ∧ status ≤ 299)
    (h : ∀ data, ¬Envelope.Delivers decode text data) :
    Verdict decode status text (.error .unreadable)
  | notFound (h : status = 404) : Verdict decode status text (.error .notFound)
  | refused {reason : String} (hstatus : ¬(200 ≤ status ∧ status ≤ 299)) (hfound : status ≠ 404)
    (h : Refusal.Reason text reason) :
    Verdict decode status text (.error (.refused status reason))

/-- Every complete response has its verdict, and no other. -/
theorem judge_response_iff {answer : Except ClientError α} :
    judge decode (.response status body) = answer ↔
      Verdict decode status (Text.ofBytesLossy body) answer := by
  constructor
  · rintro rfl
    by_cases hstatus : 200 ≤ status ∧ status ≤ 299
    · by_cases hdelivers : ∃ data, Envelope.Delivers decode (Text.ofBytesLossy body) data
      · obtain ⟨data, hdata⟩ := hdelivers
        rw [judge_of_delivers hstatus hdata]
        exact .delivered hstatus hdata
      · rw [not_exists] at hdelivers
        rw [judge_of_not_delivers hstatus hdelivers]
        exact .unreadable hstatus hdelivers
    · by_cases hfound : status = 404
      · subst hfound
        exact .notFound rfl
      · obtain ⟨reason, hreason⟩ := Refusal.exists_reason (Text.ofBytesLossy body)
        rw [judge_of_reason hstatus hfound hreason]
        exact .refused hstatus hfound hreason
  · intro h
    cases h with
    | delivered hstatus hdata => exact judge_of_delivers hstatus hdata
    | unreadable hstatus hnone => exact judge_of_not_delivers hstatus hnone
    | notFound hfound =>
      subst hfound
      rfl
    | refused hstatus hfound hreason => exact judge_of_reason hstatus hfound hreason

namespace Verdict

variable {text : String}

theorem ok_iff {data : α} : Verdict decode status text (.ok data) ↔
    (200 ≤ status ∧ status ≤ 299) ∧ Envelope.Delivers decode text data := by
  constructor
  · intro h
    cases h with
    | delivered hstatus hdata => exact ⟨hstatus, hdata⟩
  · rintro ⟨hstatus, hdata⟩
    exact .delivered hstatus hdata

theorem unreadable_iff : Verdict decode status text (.error .unreadable) ↔
    (200 ≤ status ∧ status ≤ 299) ∧ ∀ data, ¬Envelope.Delivers decode text data := by
  constructor
  · intro h
    cases h with
    | unreadable hstatus hnone => exact ⟨hstatus, hnone⟩
  · rintro ⟨hstatus, hnone⟩
    exact .unreadable hstatus hnone

theorem notFound_iff : Verdict decode status text (.error .notFound) ↔ status = 404 := by
  constructor
  · intro h
    cases h with
    | notFound hfound => exact hfound
  · exact .notFound

theorem refused_iff {code : ℕ} {reason : String} :
    Verdict decode status text (.error (.refused code reason)) ↔
      ¬(200 ≤ status ∧ status ≤ 299) ∧ status ≠ 404 ∧ code = status ∧
        Refusal.Reason text reason := by
  constructor
  · intro h
    cases h with
    | refused hstatus hfound hreason => exact ⟨hstatus, hfound, rfl, hreason⟩
  · rintro ⟨hstatus, hfound, rfl, hreason⟩
    exact .refused hstatus hfound hreason

end Verdict

end Judging

end Client

/-- The calls of the client. -/
inductive Endpoint where
  | wallet
  | price
  | newCharge (request : ChargeRequest)
  | charge (id : String)

namespace Endpoint

/-- What a call comes to when it succeeds. -/
def Data : Endpoint → Type
  | .wallet => Wallet
  | .price => Binary64
  | .newCharge _ => Charge
  | .charge _ => Charge

def method : Endpoint → String
  | .newCharge _ => "POST"
  | _ => "GET"

def path : Endpoint → String
  | .wallet => "/v1/wallet"
  | .price => "/v1/btcusd"
  | .newCharge _ => "/v1/charges"
  | .charge id => "/v1/charges/" ++ id

def body : Endpoint → Option String
  | .newCharge request => some request.toJson.write
  | _ => none

def read? : (e : Endpoint) → Json → Option e.Data
  | .wallet => Wallet.ofJson?
  | .price => fun v => (Price.ofJson? 1 v).map Price.price
  | .newCharge _ => Charge.ofJson?
  | .charge _ => Charge.ofJson?

end Endpoint

namespace Client

theorem judge_map {α β : Type} (decode : Json → Option α) (f : α → β) (reply : Reply) :
    judge (fun v => (decode v).map f) reply = (judge decode reply).map f := by
  cases reply with
  | broken => rfl
  | cutOff status => rfl
  | response status body =>
    simp only [judge]
    split
    · cases Json.parse? (Text.ofBytesLossy body) with
      | none => rfl
      | some v =>
        rw [Option.bind_some, Option.bind_some, Envelope.ofJson?_map]
        cases Envelope.ofJson? decode v <;> rfl
    · split <;> rfl

theorem call_map {α β : Type} (c : Client) (method path : String) (body : Option String)
    (decode : Json → Option α) (f : α → β) (x : Exchange) :
    c.call method path body (fun v => (decode v).map f) x =
      ((c.call method path body decode x).1.map f, (c.call method path body decode x).2) := by
  unfold call
  cases c.baseUrl.join path with
  | error cause => rfl
  | ok url =>
    dsimp only
    cases c.request? method url body with
    | none => rfl
    | some request => simp only [judge_map]

/-- A call of the client. -/
def ask (c : Client) : (e : Endpoint) → Exchange → Except ClientError e.Data × Exchange
  | .wallet => c.wallet
  | .price => c.bitcoinPrice
  | .newCharge request => c.createCharge request
  | .charge id => c.charge id

theorem ask_eq_call (c : Client) (e : Endpoint) (x : Exchange) :
    c.ask e x = c.call e.method e.path e.body e.read? x := by
  cases e with
  | wallet => rfl
  | price => exact (c.call_map "GET" "/v1/btcusd" none (Price.ofJson? 1) Price.price x).symm
  | newCharge request => rfl
  | charge id => rfl

variable {c : Client} {x : Exchange} {e : Endpoint}

theorem ask_of_join_error {cause : UrlError} (h : c.baseUrl.join e.path = .error cause) :
    c.ask e x = (.error (.invalidUrl cause), x) := by
  rw [ask_eq_call, call, h]

/-- Every call comes to the verdict on its reply. An address that no path can be joined to is refused
before anything is sent, and where nothing can be sent there is no reply. A complete response is taken
for data exactly if its status is one of success and its text delivers them, and is unreadable
exactly if it has such a status and delivers none; whatever its text, it is not found exactly if its
status is 404; and with every other status it is a refusal, with that status, and with the message of
the text as its reason or else the text itself. Without a complete response the call fails in the same
way whatever the status of the response was. -/
theorem response_classified (c : Client) (x : Exchange) (e : Endpoint) :
    let answer := (c.ask e x).1
    (∀ cause, c.baseUrl.join e.path = .error cause →
      c.ask e x = (.error (.invalidUrl cause), x)) ∧
    ∀ url, c.baseUrl.join e.path = .ok url →
      (¬c.CanSend x → c.ask e x = (.error .transport, x)) ∧
      (c.CanSend x →
        (c.ask e x).2 = x.after
          ⟨e.method, url.requested, headerText c.apiKey, "application/json", e.body⟩ ∧
        (∀ status body, x.turn.reply = .response status body →
          let text := Text.ofBytesLossy body
          let success := 200 ≤ status ∧ status ≤ 299
          (∀ data, answer = .ok data ↔ success ∧ Envelope.Delivers e.read? text data) ∧
          (answer = .error .unreadable ↔
            success ∧ ∀ data, ¬Envelope.Delivers e.read? text data) ∧
          (answer = .error .notFound ↔ status = 404) ∧
          ∀ code reason, answer = .error (.refused code reason) ↔
            ¬success ∧ status ≠ 404 ∧ code = status ∧ Refusal.Reason text reason) ∧
        (∀ status, x.turn.reply = .cutOff status → answer = .error .transport) ∧
        (x.turn.reply = .broken → answer = .error .transport)) := by
  intro answer
  refine ⟨fun cause hjoin => ask_of_join_error hjoin, fun url hjoin => ⟨?_, fun hsend => ?_⟩⟩
  · intro hsend
    rw [ask_eq_call]
    exact call_of_join_not_canSend hsend hjoin _ _ _
  · have hcall := call_of_join hsend hjoin e.method e.body e.read?
    rw [← ask_eq_call] at hcall
    have hanswer : answer = judge e.read? x.turn.reply := congrArg Prod.fst hcall
    refine ⟨congrArg Prod.snd hcall, fun status body hreply => ?_, fun status hreply => ?_,
      fun hreply => ?_⟩
    · rw [hreply] at hanswer
      simp only [hanswer, judge_response_iff, Verdict.ok_iff, Verdict.unreadable_iff,
        Verdict.notFound_iff, Verdict.refused_iff, implies_true, and_self]
    · rw [hanswer, hreply]
      rfl
    · rw [hanswer, hreply]
      rfl

/-- A refusal in the form of an array, with a reason that has no words, to a request for a charge that
brings a query into its address. -/
theorem response_classified_without_words :
    let client : Client := ⟨"key", ⟨"http", "", "", some (.ipv4 2130706433), some 1, .segments [""],
      none, none⟩⟩
    let x : Exchange := ⟨0, true, [⟨.response 500 "[false,\"\"]".toUTF8, none⟩], []⟩
    client.CanSend x ∧ (∃ url, client.baseUrl.join (Endpoint.charge "c?d").path = .ok url) ∧
      (client.ask (.charge "c?d") x).1 = .error (.refused 500 "") := by
  intro client x
  have hsend : client.CanSend x := by
    refine ⟨rfl, ?_, ?_, [""], rfl⟩ <;> decide
  obtain ⟨url, hjoin⟩ := Url.join_of_rooted (show client.baseUrl.path = .segments [""] from rfl)
    (Endpoint.charge "c?d").path
  have hreason : Refusal.Reason (Text.ofBytesLossy "[false,\"\"]".toUTF8) "" :=
    Refusal.reason_iff.mpr (by decide)
  obtain ⟨-, hresponse, -⟩ := ((response_classified client x (.charge "c?d")).2 url hjoin).2 hsend
  obtain ⟨-, -, -, hrefused⟩ := hresponse 500 _ rfl
  exact ⟨hsend, ⟨url, hjoin⟩, (hrefused 500 "").mpr ⟨by decide, by decide, rfl, hreason⟩⟩

end Client

end LightningDeposit
