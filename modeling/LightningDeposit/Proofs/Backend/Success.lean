import LightningDeposit.Proofs.Charge.Shape
import LightningDeposit.Proofs.Invoice.Creation

/-!
What an envelope says of the success of its request, and that nobody looks at it. Only the status of
a response and the data in its envelope decide: a refusal that comes with a status of success and
with data that can be read is taken for an answer, by every operation.
-/

namespace LightningDeposit

/-- A complete response of a success status whose body is that envelope, around any data. -/
def Reply.Wraps (reply : Reply) (e : Envelope Json) : Prop :=
  ∃ status body, reply = .response status body ∧ 200 ≤ status ∧ status ≤ 299 ∧
    (Json.parse? (Text.ofBytesLossy body)).bind (Envelope.ofJson? some) = some e

namespace Client

variable {α : Type}

/-- What the data of an envelope is worth; it is not asked whether the request succeeded. -/
def worth (decode : Json → Option α) (e : Envelope Json) : Except ClientError α :=
  match decode e.data with
  | some data => .ok data
  | none => .error .unreadable

theorem judge_of_wraps {reply : Reply} {e : Envelope Json} (h : reply.Wraps e)
    (decode : Json → Option α) : judge decode reply = worth decode e := by
  obtain ⟨status, body, rfl, hlow, hhigh, he⟩ := h
  obtain ⟨v, hv, hread⟩ := Option.bind_eq_some_iff.mp he
  simp only [judge, worth, hlow, hhigh, and_self, ↓reduceIte, hv, Option.bind_some,
    Envelope.ofJson?_eq_bind decode v, hread]
  cases decode e.data <;> rfl

end Client

namespace Backend

variable {b : Backend} {s : Surroundings} {e : Envelope Json}

theorem status_of_wraps (hsend : b.client.CanSend s.exchange)
    (he : s.exchange.turn.reply.Wraps e) :
    (b.status s).1 =
      match Wallet.ofJson? e.data with
      | some wallet => ⟨.sat (wallet.balance / Pricing.msatsPerSat), none⟩
      | none => ⟨.sat 0, some ("ZBD status check failed: " ++ ClientError.unreadable.message)⟩ := by
  obtain ⟨request, hcall⟩ := Client.call_sends hsend "GET" "/v1/wallet" none Wallet.ofJson?
  simp only [status, Client.wallet, hcall, Client.judge_of_wraps he, Client.worth]
  cases Wallet.ofJson? e.data <;> rfl

theorem invoiceStatus_of_wraps (hsend : b.client.CanSend s.exchange)
    (he : s.exchange.turn.reply.Wraps e) (id : String) :
    (b.invoiceStatus id s).1 =
      match Charge.ofJson? e.data with
      | some charge => .of charge.status.result
      | none =>
        .unknown ("ZBD get_invoice_status failed: " ++ ClientError.unreadable.message) := by
  obtain ⟨request, hcall⟩ :=
    Client.call_sends hsend "GET" ("/v1/charges/" ++ id) none Charge.ofJson?
  simp only [invoiceStatus, Client.charge, hcall, Client.judge_of_wraps he, Client.worth]
  cases Charge.ofJson? e.data <;> rfl

theorem exchangeRate_of_wraps (hsend : b.client.CanSend s.exchange)
    (he : s.exchange.turn.reply.Wraps e)
    (hstale : ¬∃ rate, s.slot.HoldsWithin s.exchange.clock 300 rate) :
    s.slot.Settled (s.exchange.turn.clock.getD s.exchange.clock)
      ((Client.worth (Price.ofJson? 1) e).map Price.price)
      (b.exchangeRate s).1 (b.exchangeRate s).2.slot := by
  rw [exchangeRate_of_stale hstale, Client.bitcoinPrice_of_canSend hsend,
    Client.judge_of_wraps he]
  exact RateSlot.settle_settled _ _ _

theorem createInvoice_of_wraps {amount : Amount} {msats : UInt64} (memo : Option String)
    (hsend : b.client.CanSend s.exchange) (hmsats : Converts b s amount msats)
    (he : (b.toMsats amount s).2.exchange.turn.reply.Wraps e) :
    (b.createInvoice amount memo s).1 = invoiceOf (Client.worth Charge.ofJson? e) := by
  obtain ⟨lookups, hlookup, -⟩ := b.toMsats_sends amount s
  have hcharge := Client.createCharge_of_canSend ((Client.canSend_of_sends hlookup).mpr hsend)
    (b.chargeRequest msats memo)
  rw [createInvoice_of_ok (toMsats_eq_ok_iff.mpr hmsats) hcharge, Client.judge_of_wraps he]

/-- Whether an envelope reports a success or a refusal, an operation that meets it with a status of
success goes by its data alone. Where these can be read, the balance and the state of the charge are
told, the price is stored and served if it is a rate, and the charge is handed out if it has an
invoice. -/
theorem success_not_looked_at (b : Backend) (s : Surroundings)
    (hsend : b.client.CanSend s.exchange) :
    (∀ e, s.exchange.turn.reply.Wraps e →
      ((b.status s).1 =
        match Wallet.ofJson? e.data with
        | some wallet => ⟨.sat (wallet.balance / 1000), none⟩
        | none =>
          ⟨.sat 0, some ("ZBD status check failed: " ++ ClientError.unreadable.message)⟩) ∧
      (∀ id, (b.invoiceStatus id s).1 =
        match Charge.ofJson? e.data with
        | some charge => .of charge.status.result
        | none =>
          .unknown ("ZBD get_invoice_status failed: " ++ ClientError.unreadable.message)) ∧
      ((¬∃ rate, s.slot.HoldsWithin s.exchange.clock 300 rate) →
        s.slot.Settled (s.exchange.turn.clock.getD s.exchange.clock)
          (match Price.ofJson? 1 e.data with
          | some price => .ok price.price
          | none => .error .unreadable)
          (b.exchangeRate s).1 (b.exchangeRate s).2.slot)) ∧
    ∀ amount memo msats e, Converts b s amount msats →
      (b.toMsats amount s).2.exchange.turn.reply.Wraps e →
      (b.createInvoice amount memo s).1 =
        match Charge.ofJson? e.data with
        | some ⟨id, _, some invoice⟩ => .created id invoice.request
        | some ⟨id, _, none⟩ =>
          .failed ("ZBD create_invoice failed: charge " ++ id ++ " has no invoice")
        | none => .failed ("ZBD create_invoice failed: " ++ ClientError.unreadable.message) := by
  refine ⟨fun e he => ⟨?_, ?_, ?_⟩, fun amount memo msats e hmsats he => ?_⟩
  · exact status_of_wraps hsend he
  · exact invoiceStatus_of_wraps hsend he
  · intro hstale
    have hsettled := exchangeRate_of_wraps hsend he hstale
    unfold Client.worth at hsettled
    cases hprice : Price.ofJson? 1 e.data <;> rwa [hprice] at hsettled
  · rw [createInvoice_of_wraps memo hsend hmsats he, Client.worth]
    cases hcharge : Charge.ofJson? e.data with
    | none => rfl
    | some charge =>
      obtain ⟨id, status, invoice⟩ := charge
      cases invoice <;> rfl

/-- A balance of five satoshis in an envelope that reports a refusal. -/
theorem success_not_looked_at_for_balance :
    let client : Client := ⟨"key", ⟨"http", "", "", some (.ipv4 2130706433), some 1, .segments [""],
      none, none⟩⟩
    let b : Backend := ⟨client, .sat, none, none, 900, "deposit"⟩
    let body := "\x7b\"success\":false,\"data\":\x7b\"balance\":\"5999\"\x7d\x7d".toUTF8
    let s : Surroundings := ⟨⟨1000, true, [⟨.response 200 body, none⟩], []⟩, none⟩
    client.CanSend s.exchange ∧
      (∃ e, s.exchange.turn.reply.Wraps e ∧ e.success = some false) ∧
      (b.status s).1 = ⟨.sat 5, none⟩ := by
  intro client b body s
  have hsend : client.CanSend s.exchange := by
    refine ⟨rfl, ?_, ?_, [""], rfl⟩ <;> decide
  have hread : ((Json.parse? (Text.ofBytesLossy body)).bind (Envelope.ofJson? some)).map
      (fun e => (e.success, Wallet.ofJson? e.data)) =
        some (some false, some ⟨5999, none⟩) := by
    decide
  obtain ⟨e, he, heq⟩ := Option.map_eq_some_iff.mp hread
  obtain ⟨hsuccess, hwallet⟩ := Prod.mk.inj heq
  have hwraps : s.exchange.turn.reply.Wraps e := ⟨200, body, rfl, by decide, by decide, he⟩
  refine ⟨hsend, ⟨e, hwraps, hsuccess⟩, ?_⟩
  rw [((success_not_looked_at b s hsend).1 e hwraps).1, hwallet]
  decide

/-- One body that reports a refusal, met by the four operations: the balance is told, a rate that is
usable is replaced by the price, an invoice is created and a charge is settled. -/
theorem refusal_taken_for_answer :
    let client : Client := ⟨"key", ⟨"http", "", "", some (.ipv4 2130706433), some 1, .segments [""],
      none, none⟩⟩
    let b : Backend := ⟨client, .usd, none, none, 900, "deposit"⟩
    let body := ("\x7b\"success\":false,\"message\":\"no\",\"data\":\x7b\"balance\":\"5000\"," ++
      "\"btcUsdPrice\":\"1\",\"id\":\"c\",\"status\":\"completed\"," ++
      "\"invoice\":\x7b\"request\":\"lnbc1\"\x7d\x7d\x7d").toUTF8
    let held : ExchangeRate := ⟨Binary64.ofNat 100000, 1699999400⟩
    let s : Surroundings := ⟨⟨1700000000, true, [⟨.response 200 body, none⟩], []⟩, some held⟩
    ((Json.parse? (Text.ofBytesLossy body)).bind (Envelope.ofJson? some)).map
        Envelope.success = some (some false) ∧
      (b.status s).1 = ⟨.sat 5, none⟩ ∧
      held.isUsable 1700000000 = true ∧
      (b.exchangeRate s).1.toOption = some (Binary64.ofNat 1) ∧
      (b.exchangeRate s).2.slot = some ⟨Binary64.ofNat 1, 1700000000⟩ ∧
      (b.createInvoice (.sat 1) none s).1 = .created "c" "lnbc1" ∧
      (b.invoiceStatus "c" s).1 = .of .settled := by
  decide +kernel

end Backend

end LightningDeposit
