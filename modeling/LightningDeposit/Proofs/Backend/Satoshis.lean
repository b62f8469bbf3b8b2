import LightningDeposit.Proofs.Backend.Operation
import LightningDeposit.Proofs.Invoice.Creation

/-!
What can be done without an exchange rate. Invoices in satoshis, the balance and the state of an
invoice go the same way whatever rate is held and whatever time it is, as long as the far side
replies the same, and they leave the rate where it is. So those who deal in satoshis notice nothing
of a provider that has no price.
-/

namespace LightningDeposit

/-- The far side would give the same replies; what time it is then and what has been sent before may
differ. -/
structure Exchange.SameReplies (x y : Exchange) : Prop where
  reachable : x.reachable = y.reachable
  replies : x.script.map Turn.reply = y.script.map Turn.reply

namespace Exchange.SameReplies

variable {x y : Exchange}

theorem turn_reply (h : x.SameReplies y) : x.turn.reply = y.turn.reply := by
  have hhead := congrArg List.head? h.replies
  rw [List.head?_map, List.head?_map] at hhead
  unfold turn
  rw [List.headD_eq_head?_getD, List.headD_eq_head?_getD]
  cases hx : x.script.head? with
  | none =>
    rw [hx, Option.map_none] at hhead
    rw [Option.map_eq_none_iff.mp hhead.symm]
  | some turn =>
    rw [hx, Option.map_some] at hhead
    obtain ⟨turn', hy, hreply⟩ := Option.map_eq_some_iff.mp hhead.symm
    rw [hy]
    exact hreply.symm

/-- A request is replied to alike. -/
theorem send (h : x.SameReplies y) (request : Request) : ∃ reply made x' y',
    x.send request = (reply, x') ∧ y.send request = (reply, y') ∧
      x.Sends made x' ∧ y.Sends made y' := by
  cases hreach : x.reachable with
  | false =>
    have hreach' : y.reachable = false := h.reachable ▸ hreach
    exact ⟨_, [], x, y, send_of_not_reachable hreach request, send_of_not_reachable hreach' request,
      .none x, .none y⟩
  | true =>
    have hreach' : y.reachable = true := h.reachable ▸ hreach
    refine ⟨_, [request], _, _, send_of_reachable hreach request, ?_, .one x request,
      .one y request⟩
    rw [send_of_reachable hreach' request, h.turn_reply]

/-- A call sends the same and comes to the same. -/
theorem call {α : Type} (h : x.SameReplies y) (c : Client) (method path : String)
    (body : Option String) (decode : Json → Option α) : ∃ answer made x' y',
    c.call method path body decode x = (answer, x') ∧
      c.call method path body decode y = (answer, y') ∧ x.Sends made x' ∧ y.Sends made y' := by
  unfold Client.call
  cases c.baseUrl.join path with
  | error cause => exact ⟨_, [], x, y, rfl, rfl, .none x, .none y⟩
  | ok url =>
    cases hrequest : c.request? method url body with
    | none =>
      refine ⟨.error .transport, [], x, y, ?_, ?_, .none x, .none y⟩
      · simp only [hrequest]
      · simp only [hrequest]
    | some request =>
      obtain ⟨reply, made, x', y', hx, hy, hsends, hsends'⟩ := h.send request
      refine ⟨Client.judge decode reply, made, x', y', ?_, ?_, hsends, hsends'⟩
      · simp only [hrequest, hx]
      · simp only [hrequest, hy]

end Exchange.SameReplies

/-- Two runs with the same outcome after the same requests, which leave the rates as they were. -/
structure Surroundings.SameRun {α : Type} (s s' : Surroundings) (p q : α × Surroundings) :
    Prop where
  outcome : p.1 = q.1
  made : ∃ made, s.exchange.Sends made p.2.exchange ∧ s'.exchange.Sends made q.2.exchange
  slot : p.2.slot = s.slot
  slot' : q.2.slot = s'.slot

/-- Operations for which no rate is looked up: those on satoshis, and those that only ask. -/
inductive Operation.NeedsNoRate : Operation → Prop
  | status : NeedsNoRate .status
  | sats (value : UInt64) (memo : Option String) : NeedsNoRate (.invoice ⟨.sat, value⟩ memo)
  | charge (id : String) : NeedsNoRate (.charge id)

namespace Backend

/-- An invoice in satoshis fails before anything is sent, or is what a call for a charge is worth.
-/
theorem createInvoice_sat (b : Backend) (value : UInt64) (memo : Option String) :
    (2 ^ 64 - 1 < value.toNat * 1000 ∧ ∀ s, b.createInvoice ⟨.sat, value⟩ memo s =
      (.failed (pricingFailure .amountOverflow), s)) ∨
    ∃ msats : UInt64, msats.toNat = 1000 * value.toNat ∧
      ∀ s answer x, b.client.createCharge (b.chargeRequest msats memo) s.exchange = (answer, x) →
        b.createInvoice ⟨.sat, value⟩ memo s = (invoiceOf answer, ⟨x, s.slot⟩) := by
  cases hsats : Pricing.satsToMsats value with
  | ok msats =>
    refine .inr ⟨msats, Pricing.satsToMsats_eq_ok_iff.mp hsats, ?_⟩
    intro s answer x hcharge
    have hmsats : (b.toMsats ⟨.sat, value⟩ s).1 = .ok msats := hsats
    exact createInvoice_of_ok hmsats hcharge
  | error cause =>
    obtain rfl := Pricing.satsToMsats_eq_error hsats
    refine .inl ⟨?_, fun s => createInvoice_of_error memo hsats⟩
    by_contra hfits
    have hmsats : (UInt64.ofNat (1000 * value.toNat)).toNat = 1000 * value.toNat := by
      rw [UInt64.toNat_ofNat']
      omega
    rw [Pricing.satsToMsats_eq_ok_iff.mpr hmsats] at hsats
    cases hsats

/-- An invoice in satoshis asks for one charge at most, and for none that does not fit a word. -/
theorem createInvoice_sat_sends (b : Backend) (value : UInt64) (memo : Option String)
    (s : Surroundings) :
    ∃ posts, s.exchange.Sends posts (b.createInvoice ⟨.sat, value⟩ memo s).2.exchange ∧
      (2 ^ 64 - 1 < value.toNat * 1000 → posts = []) ∧
      (posts = [] ∨ ∃ msats, msats.toNat = 1000 * value.toNat ∧
        posts = [b.client.newChargeRequest (b.chargeRequest msats memo)]) := by
  obtain ⟨-, hcreate⟩ | ⟨msats, hmsats, hcreate⟩ := b.createInvoice_sat value memo
  · rw [hcreate s]
    exact ⟨[], .none _, fun _ => rfl, .inl rfl⟩
  · by_cases hsend : b.client.CanSend s.exchange
    · rw [hcreate s _ _ (Client.createCharge_of_canSend hsend _)]
      refine ⟨_, .one _ _, fun hlarge => ?_, .inr ⟨msats, hmsats, rfl⟩⟩
      have hword := msats.toNat_lt
      omega
    · obtain ⟨cause, hcharge⟩ :=
        Client.createCharge_of_not_canSend hsend (b.chargeRequest msats memo)
      rw [hcreate s _ _ hcharge]
      exact ⟨[], .none _, fun _ => rfl, .inl rfl⟩

end Backend

theorem Operation.run_sameReplies (b : Backend) {operation : Operation}
    (h : operation.NeedsNoRate) {s s' : Surroundings} (hx : s.exchange.SameReplies s'.exchange) :
    s.SameRun s' (operation.run b s) (operation.run b s') := by
  cases h with
  | status =>
    obtain ⟨answer, made, x, x', hwallet, hwallet', hsends⟩ :=
      hx.call b.client "GET" "/v1/wallet" none Wallet.ofJson?
    simp only [run, Backend.status, Client.wallet, hwallet, hwallet']
    exact ⟨rfl, ⟨made, hsends⟩, rfl, rfl⟩
  | charge id =>
    obtain ⟨answer, made, x, x', hcharge, hcharge', hsends⟩ :=
      hx.call b.client "GET" ("/v1/charges/" ++ id) none Charge.ofJson?
    simp only [run, Backend.invoiceStatus, Client.charge, hcharge, hcharge']
    exact ⟨rfl, ⟨made, hsends⟩, rfl, rfl⟩
  | sats value memo =>
    obtain ⟨-, hcreate⟩ | ⟨msats, -, hcreate⟩ := b.createInvoice_sat value memo
    · simp only [run, hcreate]
      exact ⟨rfl, ⟨[], .none _, .none _⟩, rfl, rfl⟩
    · obtain ⟨answer, made, x, x', hcharge, hcharge', hsends⟩ :=
        hx.call b.client "POST" "/v1/charges"
          (some (b.chargeRequest msats memo).toJson.write) Charge.ofJson?
      simp only [run, hcreate s answer x hcharge, hcreate s' answer x' hcharge']
      exact ⟨rfl, ⟨made, hsends⟩, rfl, rfl⟩

/-- Invoices in satoshis, the balance and the state of an invoice do not depend on the rate: with
the same replies they have the same outcome after the same requests, whatever the slot holds and
whatever the clocks show, and the slot is left as it is. An invoice in satoshis requests nothing if
its millisatoshis do not fit a word, else one charge at most, and never a price. -/
theorem Operation.run_without_rate (b : Backend) :
    (∀ operation : Operation, operation.NeedsNoRate → ∀ s s' : Surroundings,
      s.exchange.SameReplies s'.exchange →
        s.SameRun s' (operation.run b s) (operation.run b s')) ∧
    ∀ (value : UInt64) (memo : Option String) (s : Surroundings), ∃ posts,
      s.exchange.Sends posts (b.createInvoice ⟨.sat, value⟩ memo s).2.exchange ∧
        (2 ^ 64 - 1 < value.toNat * 1000 → posts = []) ∧
        (posts = [] ∨ ∃ msats, msats.toNat = 1000 * value.toNat ∧
          posts = [b.client.newChargeRequest (b.chargeRequest msats memo)]) ∧
        ∀ r ∈ posts, r.method = "POST" ∧ r ≠ b.client.priceRequest := by
  constructor
  · intro operation h s s' hx
    exact run_sameReplies b h hx
  · intro value memo s
    obtain ⟨posts, hsends, hlarge, hposts⟩ := b.createInvoice_sat_sends value memo s
    refine ⟨posts, hsends, hlarge, hposts, ?_⟩
    intro r hr
    obtain rfl | ⟨msats, -, rfl⟩ := hposts
    · cases hr
    · rw [List.mem_singleton.mp hr]
      refine ⟨rfl, fun heq => ?_⟩
      have hmethod := congrArg Request.method heq
      simp [Client.newChargeRequest, Client.priceRequest, Client.request] at hmethod

/-- A backend for dollars with no rate and one with an old rate and another clock. -/
theorem Operation.run_without_rate_for_usd :
    let client : Client := ⟨"key", ⟨"http", "", "", some (.ipv4 2130706433), some 1, .segments [""],
      none, none⟩⟩
    let b : Backend := ⟨client, .usd, none, none, 900, "deposit"⟩
    let body := ("\x7b\"data\":\x7b\"id\":\"c1\"," ++
      "\"invoice\":\x7b\"request\":\"lnbc1\"\x7d\x7d\x7d").toUTF8
    let s : Surroundings := ⟨⟨1000, true, [⟨.response 200 body, none⟩], []⟩, none⟩
    let s' : Surroundings :=
      ⟨⟨9000, true, [⟨.response 200 body, some 9999⟩], []⟩, some ⟨Binary64.ofNat 50000, 8000⟩⟩
    let invoice : Operation := .invoice ⟨.sat, 21⟩ (some "tea")
    invoice.NeedsNoRate ∧ s.exchange.SameReplies s'.exchange ∧
      (invoice.run b s').1 = .invoice ⟨true, some "c1", some "lnbc1", none⟩ ∧
      (invoice.run b s').2.slot = s'.slot := by
  intro client b body s s' invoice
  have hneeds : invoice.NeedsNoRate := .sats 21 (some "tea")
  have hsame : s.exchange.SameReplies s'.exchange := ⟨rfl, rfl⟩
  have hfirst : (b.createInvoice ⟨.sat, 21⟩ (some "tea") s).1 =
      ⟨true, some "c1", some "lnbc1", none⟩ := by
    decide
  have hrun := (run_without_rate b).1 invoice hneeds s s' hsame
  exact ⟨hneeds, hsame, hrun.outcome.symm.trans (congrArg Outcome.invoice hfirst), hrun.slot'⟩

end LightningDeposit
