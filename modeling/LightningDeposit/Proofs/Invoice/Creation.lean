import LightningDeposit.Proofs.Invoice.Amount

/-!
Creating an invoice. Whatever the far side does, at most the price of a bitcoin is asked for and
then at most one charge, and the response is either all of an invoice or a reason and nothing else;
the first words of the reason tell how far the creation came.
-/

namespace LightningDeposit

/-- The text begins with those words. -/
def Text.Begins (text words : String) : Prop := words.toList <+: text.toList

namespace Text

theorem begins_append {text words : String} (h : Begins text words) (rest : String) :
    Begins (text ++ rest) words := by
  rw [Begins, String.toList_append]
  exact List.IsPrefix.trans h (List.prefix_append _ _)

theorem head?_of_begins {text words : String} {c : Char} (h : Begins text words)
    (hwords : words.toList.head? = some c) : text.toList.head? = some c := by
  obtain ⟨rest, hrest⟩ := h
  rw [← hrest, List.head?_append, hwords]
  rfl

theorem not_begins {text words : String} {c d : Char} (htext : text.toList.head? = some c)
    (hwords : words.toList.head? = some d) (h : c ≠ d) : ¬Begins text words := by
  intro hbegins
  rw [head?_of_begins hbegins hwords] at htext
  cases htext
  exact h rfl

theorem ne_empty_of_head? {text : String} {c : Char} (h : text.toList.head? = some c) :
    text ≠ "" := by
  rintro rfl
  cases h

theorem head?_append {text : String} {c : Char} (h : text.toList.head? = some c) (rest : String) :
    (text ++ rest).toList.head? = some c := by
  rw [String.toList_append, List.head?_append, h]
  rfl

end Text

/-- The reply is a charge with that invoice. -/
def Reply.HoldsInvoice (reply : Reply) (charge : Charge) (invoice : ChargeInvoice) : Prop :=
  reply.Holds Charge.ofJson? charge ∧ charge.invoice = some invoice

namespace Backend

variable {b : Backend} {s : Surroundings} {amount : Amount} {msats : UInt64}

theorem toMsats_of_unsupported (h : amount.unit ∉ supportedUnits) :
    b.toMsats amount s = (.error (.unsupportedUnit amount.unit), s) := by
  obtain ⟨unit, value⟩ := amount
  cases unit with
  | sat => exact absurd (by simp [supportedUnits]) h
  | usd => exact absurd (by simp [supportedUnits]) h
  | msat => rfl
  | eur => rfl

/-- The check of the unit says no more than the failure to price does. -/
theorem createInvoice_of_error {cause : BackendError} (memo : Option String)
    (h : (b.toMsats amount s).1 = .error cause) :
    b.createInvoice amount memo s = (.failed (pricingFailure cause), (b.toMsats amount s).2) := by
  by_cases hunit : amount.unit ∈ supportedUnits
  · have hpair : b.toMsats amount s = (.error cause, (b.toMsats amount s).2) := Prod.ext h rfl
    rw [createInvoice, if_neg (not_not_intro hunit), hpair]
  · rw [toMsats_of_unsupported hunit] at h ⊢
    cases h
    exact if_pos hunit

theorem createInvoice_of_ok {memo : Option String} {answer : Except ClientError Charge}
    {y : Exchange} (h : (b.toMsats amount s).1 = .ok msats)
    (hcharge : b.client.createCharge (b.chargeRequest msats memo) (b.toMsats amount s).2.exchange =
      (answer, y)) :
    b.createInvoice amount memo s = (invoiceOf answer, ⟨y, (b.toMsats amount s).2.slot⟩) := by
  have hunit : amount.unit ∈ supportedUnits := by
    by_contra hunit
    rw [toMsats_of_unsupported hunit] at h
    cases h
  have hpair : b.toMsats amount s = (.ok msats, (b.toMsats amount s).2) := Prod.ext h rfl
  rw [createInvoice, if_neg (not_not_intro hunit), hpair]
  simp only [hcharge]

/-- Only the pricing writes the slot. -/
theorem createInvoice_slot (b : Backend) (amount : Amount) (memo : Option String)
    (s : Surroundings) :
    (b.createInvoice amount memo s).2.slot = (b.toMsats amount s).2.slot := by
  cases hmsats : (b.toMsats amount s).1 with
  | error cause => rw [createInvoice_of_error memo hmsats]
  | ok msats => rw [createInvoice_of_ok hmsats rfl]

/-- What the first words of a reason tell: whether there was a price, and whether there was no
rate. -/
structure Reason (b : Backend) (s : Surroundings) (amount : Amount) (message : String) : Prop where
  ne_empty : message ≠ ""
  priced : Text.Begins message "ZBD create_invoice failed: " ↔ ∃ msats, Converts b s amount msats
  unrated : Text.Begins message "Exchange rate error: " ↔
    amount.unit = .usd ∧ ∀ rate, (b.exchangeRate s).1 ≠ .ok rate

/-- Neither of the two beginnings, and neither of what they tell. -/
theorem reason_of_first {message : String} {c : Char} (hfirst : message.toList.head? = some c)
    (hc : c ≠ 'Z' ∧ c ≠ 'E') (hpriced : ¬∃ msats, Converts b s amount msats)
    (hrated : amount.unit = .usd → ∃ rate, (b.exchangeRate s).1 = .ok rate) :
    Reason b s amount message := by
  refine ⟨Text.ne_empty_of_head? hfirst, iff_of_false (Text.not_begins hfirst rfl hc.1) hpriced,
    iff_of_false (Text.not_begins hfirst rfl hc.2) ?_⟩
  rintro ⟨husd, hnone⟩
  obtain ⟨rate, hrate⟩ := hrated husd
  exact hnone rate hrate

theorem reason_of_error {cause : BackendError} (h : (b.toMsats amount s).1 = .error cause) :
    Reason b s amount (pricingFailure cause) := by
  have hpriced : ¬∃ msats, Converts b s amount msats := by
    rintro ⟨msats, hconverts⟩
    rw [toMsats_eq_ok_iff.mpr hconverts] at h
    cases h
  cases toMsats_eq_error h with
  | unit _ hunit =>
    refine reason_of_first (Text.head?_append rfl _) ⟨by decide, by decide⟩ hpriced fun husd => ?_
    exact absurd (by simp [husd, supportedUnits]) hunit
  | sats value =>
    refine reason_of_first rfl ⟨by decide, by decide⟩ hpriced fun husd => ?_
    cases husd
  | rate value reason hnone =>
    have hfirst : (pricingFailure (.rateUnavailable reason)).toList.head? = some 'E' :=
      Text.head?_append rfl _
    refine ⟨Text.ne_empty_of_head? hfirst,
      iff_of_false (Text.not_begins hfirst rfl (by decide)) hpriced,
      iff_of_true (Text.begins_append (List.prefix_refl _) _) ⟨rfl, fun rate hrate => ?_⟩⟩
    rw [hnone] at hrate
    cases hrate
  | cents value rate _ hrate hcause =>
    rcases hcause with rfl | rfl
    · exact reason_of_first (Text.head?_append rfl _) ⟨by decide, by decide⟩ hpriced
        fun _ => ⟨rate, hrate⟩
    · exact reason_of_first rfl ⟨by decide, by decide⟩ hpriced fun _ => ⟨rate, hrate⟩

theorem reason_of_converts {message : String} (h : Converts b s amount msats)
    (hmessage : Text.Begins message "ZBD create_invoice failed: ") : Reason b s amount message := by
  have hfirst : message.toList.head? = some 'Z' := Text.head?_of_begins hmessage rfl
  refine ⟨Text.ne_empty_of_head? hfirst, iff_of_true hmessage ⟨msats, h⟩,
    iff_of_false (Text.not_begins hfirst rfl (by decide)) ?_⟩
  rintro ⟨husd, hnone⟩
  cases h with
  | sats => cases husd
  | cents _ _ rate hfound => exact hnone rate hfound

/-- A charge without an invoice is as bad as no charge. -/
theorem invoiceOf_judge (reply : Reply) :
    (∃ charge invoice, reply.HoldsInvoice charge invoice ∧
      invoiceOf (Client.judge Charge.ofJson? reply) =
        ⟨true, some charge.id, some invoice.request, none⟩) ∨
    (¬∃ charge invoice, reply.HoldsInvoice charge invoice) ∧
      ∃ message, invoiceOf (Client.judge Charge.ofJson? reply) = ⟨false, none, none, some message⟩ ∧
        Text.Begins message "ZBD create_invoice failed: " := by
  cases hjudge : Client.judge Charge.ofJson? reply with
  | ok charge =>
    obtain ⟨id, status, invoice⟩ := charge
    have hholds := Client.judge_eq_ok_iff.mp hjudge
    cases invoice with
    | some invoice => exact .inl ⟨_, invoice, ⟨hholds, rfl⟩, rfl⟩
    | none =>
      refine .inr ⟨?_, _, rfl, ?_⟩
      · rintro ⟨charge, invoice, hcharge, hinvoice⟩
        rw [Client.judge_eq_ok_iff.mpr hcharge] at hjudge
        cases hjudge
        cases hinvoice
      · exact Text.begins_append (Text.begins_append ⟨"charge ".toList, rfl⟩ _) _
  | error cause =>
    refine .inr ⟨?_, _, rfl, Text.begins_append (List.prefix_refl _) _⟩
    rintro ⟨charge, invoice, hcharge, -⟩
    rw [Client.judge_eq_ok_iff.mpr hcharge] at hjudge
    cases hjudge

/-- Creating an invoice ends with a reason before a charge is asked for, or with what the reply to
that request is worth. -/
theorem createInvoice_cases (b : Backend) (amount : Amount) (memo : Option String)
    (s : Surroundings) :
    let s' := (b.toMsats amount s).2
    (∃ message, b.createInvoice amount memo s = (.failed message, s') ∧
      Reason b s amount message ∧
      ¬((∃ msats, Converts b s amount msats) ∧ b.client.CanSend s.exchange)) ∨
    ∃ msats, Converts b s amount msats ∧ b.client.CanSend s.exchange ∧
      b.createInvoice amount memo s =
        (invoiceOf (Client.judge Charge.ofJson? s'.exchange.turn.reply),
          ⟨s'.exchange.after (b.client.newChargeRequest (b.chargeRequest msats memo)),
            s'.slot⟩) := by
  intro s'
  obtain ⟨lookups, hlookup, -⟩ := b.toMsats_sends amount s
  cases hmsats : (b.toMsats amount s).1 with
  | error cause =>
    refine .inl ⟨_, createInvoice_of_error memo hmsats, reason_of_error hmsats, ?_⟩
    rintro ⟨⟨msats, hconverts⟩, -⟩
    rw [toMsats_eq_ok_iff.mpr hconverts] at hmsats
    cases hmsats
  | ok msats =>
    have hconverts := toMsats_eq_ok_iff.mp hmsats
    by_cases hsend : b.client.CanSend s.exchange
    · have hafter := (Client.canSend_of_sends hlookup).mpr hsend
      have hcharge := Client.createCharge_of_canSend hafter (b.chargeRequest msats memo)
      exact .inr ⟨msats, hconverts, hsend, createInvoice_of_ok hmsats hcharge⟩
    · have hafter := mt (Client.canSend_of_sends hlookup).mp hsend
      obtain ⟨cause, hcharge⟩ := Client.createCharge_of_not_canSend hafter
        (b.chargeRequest msats memo)
      refine .inl ⟨_, createInvoice_of_ok hmsats hcharge, reason_of_converts hconverts ?_,
        fun h => hsend h.2⟩
      exact Text.begins_append (List.prefix_refl _) cause.message

/-- Creating an invoice makes at most one request for a charge, after at most one for the price and
only for an amount that has a price. The response holds the charge and its invoice exactly if the
reply to that request does; otherwise it holds neither, but a reason. -/
theorem createInvoice_all_or_nothing (b : Backend) (amount : Amount) (memo : Option String)
    (s : Surroundings) :
    let response := (b.createInvoice amount memo s).1
    ∃ lookups posts,
      (b.createInvoice amount memo s).2.exchange.sent = s.exchange.sent ++ (lookups ++ posts) ∧
      (lookups = [] ∨ amount.unit = .usd ∧ lookups = [b.client.priceRequest]) ∧
      (posts = [] ∨ ∃ msats, Converts b s amount msats ∧
        posts = [b.client.newChargeRequest (b.chargeRequest msats memo)]) ∧
      (posts ≠ [] ↔ (∃ msats, Converts b s amount msats) ∧ b.client.CanSend s.exchange) ∧
      let reply := (s.exchange.script.getD lookups.length Exchange.exhausted).reply
      ((∃ charge invoice, posts ≠ [] ∧ reply.HoldsInvoice charge invoice ∧
          response = ⟨true, some charge.id, some invoice.request, none⟩) ∨
        (¬∃ charge invoice, posts ≠ [] ∧ reply.HoldsInvoice charge invoice) ∧
          ∃ message, response = ⟨false, none, none, some message⟩ ∧
            Reason b s amount message) := by
  intro response
  obtain ⟨lookups, hlookup, hlookups⟩ := b.toMsats_sends amount s
  rcases createInvoice_cases b amount memo s with
    ⟨message, hcreate, hreason, hnot⟩ | ⟨msats, hconverts, hsend, hcreate⟩
  · simp only [response, hcreate]
    refine ⟨lookups, [], ?_, hlookups, .inl rfl, ?_, .inr ⟨?_, message, rfl, hreason⟩⟩
    · rw [List.append_nil, hlookup.sent]
    · exact iff_of_false (fun hne => hne rfl) hnot
    · rintro ⟨charge, invoice, hne, -⟩
      exact hne rfl
  · have hpost := hlookup.trans (.one _ (b.client.newChargeRequest (b.chargeRequest msats memo)))
    simp only [response, hcreate, hlookup.turn]
    refine ⟨lookups, _, hpost.sent, hlookups, .inr ⟨msats, hconverts, rfl⟩, ?_, ?_⟩
    · exact iff_of_true (List.cons_ne_nil _ _) ⟨⟨msats, hconverts⟩, hsend⟩
    · rcases invoiceOf_judge (s.exchange.script.getD lookups.length Exchange.exhausted).reply with
        ⟨charge, invoice, hholds, hcreated⟩ | ⟨hnone, message, hfailed, hmessage⟩
      · exact .inl ⟨charge, invoice, List.cons_ne_nil _ _, hholds, hcreated⟩
      · refine .inr ⟨?_, message, hfailed, reason_of_converts hconverts hmessage⟩
        rintro ⟨charge, invoice, -, hholds⟩
        exact hnone ⟨charge, invoice, hholds⟩

end Backend

end LightningDeposit
