import LightningDeposit.Proofs.Invoice.Creation
import LightningDeposit.Proofs.Json.RoundTrip

/-!
What a charge asks for. The request that creates a charge can be read back as an object of just the
members meant for it, with the amount at the right rate, the memo as it was given and the settings
of the backend.
-/

namespace LightningDeposit

theorem Settings.bind_nonEmpty_cases (given : Option String) :
    (∃ s, given = some s ∧ s ≠ "" ∧ given.bind nonEmpty = some s) ∨
      (given = none ∨ given = some "") ∧ given.bind nonEmpty = none := by
  cases given with
  | none => exact .inr ⟨.inl rfl, rfl⟩
  | some s =>
    by_cases hs : s = ""
    · subst hs
      exact .inr ⟨.inr rfl, rfl⟩
    · exact .inl ⟨s, rfl, hs, if_neg hs⟩

/-- A request for a charge can be read back. -/
theorem ChargeRequest.parse?_write (r : ChargeRequest) :
    Json.parse? r.toJson.write = some r.toJson := by
  refine Json.parse?_write (Json.wellFormed_record ?_)
  obtain ⟨amount, description, expiresIn, callbackUrl⟩ := r
  cases callbackUrl <;> simp [Json.wellFormed_text, Json.wellFormed_word]

namespace Backend

variable {settings : Settings} {unit : CurrencyUnit} {b : Backend} {made : List Request}
  {post : Request}

/-- A new backend keeps what its charges need of the settings. -/
theorem chargeRequest_of_new (h : Backend.new settings unit = .ok b) (msats : UInt64)
    (memo : Option String) : b.chargeRequest msats memo =
      ⟨Text.ofNat msats.toNat, (memo.bind Settings.nonEmpty).getD settings.invoiceDescription,
        settings.invoiceExpirySecs, settings.callbackUrl.bind Settings.nonEmpty⟩ := by
  simp only [new] at h
  split at h
  · cases h
  · split at h
    · cases h
    · split at h
      · cases h
      · cases h
        rfl

theorem toJson_chargeRequest_of_new (h : Backend.new settings unit = .ok b) (msats : UInt64)
    (memo : Option String) :
    ∃ description callback,
      (memo = some description ∧ description ≠ "" ∨
        (memo = none ∨ memo = some "") ∧ description = settings.invoiceDescription) ∧
      ((∃ url, settings.callbackUrl = some url ∧ url ≠ "" ∧
          callback = [("callbackUrl", Json.text url)]) ∨
        (settings.callbackUrl = none ∨ settings.callbackUrl = some "") ∧ callback = []) ∧
      (b.chargeRequest msats memo).toJson = Json.record ([
        ("amount", Json.text (toString msats.toNat)), ("description", Json.text description),
        ("expiresIn", Json.word settings.invoiceExpirySecs)] ++ callback) := by
  rw [chargeRequest_of_new h, ChargeRequest.toJson]
  refine ⟨_, _, ?_, ?_, rfl⟩
  · rcases Settings.bind_nonEmpty_cases memo with ⟨text, hmemo, hne, hbind⟩ | ⟨hempty, hbind⟩
    · rw [hbind]
      exact .inl ⟨hmemo, hne⟩
    · rw [hbind]
      exact .inr ⟨hempty, rfl⟩
  · rcases Settings.bind_nonEmpty_cases settings.callbackUrl with
      ⟨url, hurl, hne, hbind⟩ | ⟨hempty, hbind⟩
    · rw [hbind]
      exact .inl ⟨url, hurl, hne, rfl⟩
    · rw [hbind]
      exact .inr ⟨hempty, rfl⟩

/-- Whenever a charge is asked for, that is the last request, and its body is an object with the
amount, the description, the expiry and, if there is one, the callback, and nothing else. -/
theorem charged_as_asked (hb : Backend.new settings unit = .ok b) (amount : Amount)
    (memo : Option String) (s : Surroundings)
    (hmade : (b.createInvoice amount memo s).2.exchange.sent = s.exchange.sent ++ made)
    (hpost : post ∈ made) (hmethod : post.method = "POST") :
    ∃ lookups msats description callback body,
      made = lookups ++ [post] ∧
      (amount.unit = .sat ∧ lookups = [] ∧ msats = 1000 * amount.value.toNat ∨
        amount.unit = .usd ∧ ∃ rate price, PricedAt b s lookups rate ∧
          Pricing.centsToMsats amount.value rate = .ok price ∧ msats = price.toNat) ∧
      (memo = some description ∧ description ≠ "" ∨
        (memo = none ∨ memo = some "") ∧ description = settings.invoiceDescription) ∧
      ((∃ url, settings.callbackUrl = some url ∧ url ≠ "" ∧
          callback = [("callbackUrl", Json.text url)]) ∨
        (settings.callbackUrl = none ∨ settings.callbackUrl = some "") ∧ callback = []) ∧
      post.body = some body ∧
      Json.parse? body = some (Json.record ([("amount", Json.text (toString msats)),
        ("description", Json.text description),
        ("expiresIn", Json.word settings.invoiceExpirySecs)] ++ callback)) := by
  obtain ⟨lookups, hlookup, hlookups⟩ := b.toMsats_sends amount s
  have hnot : post ∉ lookups := by
    intro hmem
    rcases hlookups with rfl | ⟨-, rfl⟩
    · cases hmem
    · rw [List.mem_singleton.mp hmem] at hmethod
      have hget : "GET" ≠ "POST" := by decide
      exact hget hmethod
  rcases createInvoice_cases b amount memo s with
    ⟨message, hcreate, -, -⟩ | ⟨msats, hconverts, hsend, hcreate⟩
  · rw [hcreate, hlookup.sent, List.append_cancel_left_eq] at hmade
    exact absurd (hmade ▸ hpost) hnot
  · have hsends := hlookup.trans (.one _ (b.client.newChargeRequest (b.chargeRequest msats memo)))
    rw [hcreate, hsends.sent, List.append_cancel_left_eq] at hmade
    subst hmade
    have hcharge : post = b.client.newChargeRequest (b.chargeRequest msats memo) :=
      List.mem_singleton.mp ((List.mem_append.mp hpost).resolve_left hnot)
    obtain ⟨description, callback, hmemo, hurl, hjson⟩ := toJson_chargeRequest_of_new hb msats memo
    refine ⟨lookups, msats.toNat, description, callback, _, by rw [hcharge], ?_, hmemo, hurl,
      by rw [hcharge]; rfl, by rw [ChargeRequest.parse?_write, hjson]⟩
    refine (hconverts.charged hsend hlookup).imp_right ?_
    rintro ⟨husd, rate, hpriced, hmsats⟩
    exact ⟨husd, rate, msats, hpriced, hmsats, rfl⟩

theorem charged_as_asked_for_tea :
    let settings := { Settings.ofApiKey "key" with apiUrl := "http://127.0.0.1:1" }
    let client : Client := ⟨"key", ⟨"http", "", "", some (.ipv4 2130706433), some 1, .segments [""],
      none, none⟩⟩
    let b : Backend := ⟨client, .sat, none, none, 900, settings.invoiceDescription⟩
    let s : Surroundings := ⟨⟨0, true, [], []⟩, none⟩
    Backend.new settings .sat = .ok b ∧
      ∃ post, (b.createInvoice (.sat 10) (some "tea") s).2.exchange.sent = [post] ∧
        ∃ body, post.body = some body ∧
          Json.parse? body = some (Json.record [("amount", Json.text "10000"),
            ("description", Json.text "tea"), ("expiresIn", Json.word 900)]) := by
  intro settings client b s
  have hnew : Backend.new settings .sat = .ok b := by decide
  have hsent : (b.createInvoice (.sat 10) (some "tea") s).2.exchange.sent =
      [] ++ [client.newChargeRequest (b.chargeRequest 10000 (some "tea"))] := by decide
  obtain ⟨lookups, msats, description, callback, body, -, hamount, hmemo, hurl, hbody, hparse⟩ :=
    charged_as_asked hnew (.sat 10) (some "tea") s hsent (List.mem_singleton_self _) rfl
  refine ⟨hnew, _, hsent, body, hbody, ?_⟩
  have hmsats : msats = 10000 := by
    rcases hamount with ⟨-, -, hsats⟩ | ⟨husd, -⟩
    · exact hsats
    · cases husd
  have hdescription : description = "tea" := by
    rcases hmemo with ⟨htea, -⟩ | ⟨hnone | hnone, -⟩
    · exact (Option.some.inj htea).symm
    · cases hnone
    · simp at hnone
  have hcallback : callback = [] := by
    rcases hurl with ⟨url, hsome, -⟩ | ⟨-, hempty⟩
    · cases hsome
    · exact hempty
  rw [hparse, hmsats, hdescription, hcallback]
  rfl

end Backend

end LightningDeposit
