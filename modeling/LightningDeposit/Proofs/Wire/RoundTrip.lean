import LightningDeposit.Charge.Wire
import LightningDeposit.Payment.Melt
import LightningDeposit.Proofs.Json.Faithful
import LightningDeposit.Settings

/-!
Every kind of data that is both written and read comes back from its text, whatever strings,
numbers and absences it holds. A kind settles this by the kinds of its fields, so each rests on
those before it.
-/

namespace LightningDeposit

open Json

section Names

theorem CurrencyUnit.faithful : Faithful toJson ofJson? :=
  ⟨fun _ => nofun, fun _ => trivial, ofName?_name⟩

theorem PaymentResult.faithful : Faithful toJson ofJson? :=
  ⟨fun _ => nofun, fun _ => trivial, ofName?_name⟩

/-- The state that stands for unknown words has a word of its own, and is what it is read as. -/
theorem ChargeStatus.faithful : Faithful toJson ofJson? :=
  ⟨fun _ => nofun, fun _ => trivial, fun s => congrArg some (ofJsonWord_jsonWord s)⟩

end Names

section Payments

theorem Amount.faithful : Faithful toJson ofJson? :=
  .of_record (by simp) (by simp [CurrencyUnit.faithful.wellFormed]) fun a => by
    simp [List.lookup_cons, CurrencyUnit.faithful.read]

theorem PaymentStatus.faithful : Faithful toJson ofJson? :=
  .of_record (by simp) (by simp [PaymentResult.faithful.wellFormed]) fun s => by
    simp [List.lookup_cons, PaymentResult.faithful.read]

theorem InvoiceResponse.faithful : Faithful toJson ofJson? :=
  .of_record (by simp) (by simp) fun r => by simp [List.lookup_cons]

theorem StatusResponse.faithful : Faithful toJson ofJson? :=
  .of_record (by simp) (by simp [Amount.faithful.wellFormed]) fun r => by
    simp [List.lookup_cons, Amount.faithful.read]

theorem Bolt11Settings.faithful : Faithful toJson ofJson? :=
  .of_record (by simp) (by simp) fun s => by simp [List.lookup_cons]

theorem SettingsResponse.faithful : Faithful toJson ofJson? :=
  .of_record (by simp)
    (by simp [CurrencyUnit.faithful.wellFormed, Bolt11Settings.faithful.wellFormed]) fun r => by
    simp [List.lookup_cons, CurrencyUnit.faithful.read, Bolt11Settings.faithful.read]

end Payments

section Melting

theorem MeltQuoteRequest.faithful : Faithful toJson ofJson? :=
  .of_record (by simp) (by simp [CurrencyUnit.faithful.wellFormed]) fun r => by
    simp [List.lookup_cons, CurrencyUnit.faithful.read]

theorem MeltQuote.faithful : Faithful toJson ofJson? :=
  .of_record (by simp) (by simp [Amount.faithful.wellFormed]) fun q => by
    simp [List.lookup_cons, Amount.faithful.read]

theorem PaymentQuoteResponse.faithful : Faithful toJson ofJson? :=
  .of_record (by simp) (by simp [Amount.faithful.wellFormed]) fun r => by
    simp [List.lookup_cons, Amount.faithful.read]

theorem PaymentResponse.faithful : Faithful toJson ofJson? :=
  .of_record (by simp)
    (by simp [PaymentResult.faithful.wellFormed, Amount.faithful.wellFormed_optional]) fun r => by
    simp [List.lookup_cons, PaymentResult.faithful.read, Amount.faithful.nullable?_optional]

end Melting

section Provider

variable {α : Type} {encode : α → Json} {decode : Json → Option α}

/-- Any data survive their envelope. -/
theorem Envelope.faithful (h : Faithful encode decode) :
    Faithful (toJson encode) (ofJson? decode) :=
  .of_record (by simp) (by simp [h.wellFormed, faithful_bool.wellFormed_optional]) fun e => by
    simp [List.lookup_cons, h.read, faithful_bool.nullable?_optional]

theorem Wallet.faithful : Faithful toJson ofJson? :=
  .of_record (by simp) (by simp) fun w => by simp [List.lookup_cons]

/-- A callback that is not written is missing, and one that is missing is none. -/
theorem ChargeRequest.faithful : Faithful toJson ofJson? := by
  refine .of_record (fun r => ?_) (fun r => ?_) fun r => ?_
  · cases r.callbackUrl <;> simp
  · cases r.callbackUrl <;> simp
  · obtain ⟨amount, description, expiresIn, callbackUrl⟩ := r
    cases callbackUrl with
    | none => simp [List.lookup_cons]
    | some url => simp [List.lookup_cons, faithful_text.nullable?_encode]

theorem ChargeInvoice.faithful : Faithful toJson ofJson? :=
  .of_record (by simp) (by simp) fun i => by simp [List.lookup_cons]

theorem Charge.faithful : Faithful toJson ofJson? :=
  .of_record (by simp)
    (by simp [ChargeStatus.faithful.wellFormed, ChargeInvoice.faithful.wellFormed_optional])
    fun c => by
    simp [List.lookup_cons, ChargeStatus.faithful.read, ChargeInvoice.faithful.nullable?_optional]

theorem Refusal.faithful : Faithful toJson ofJson? :=
  .of_record (by simp) (by simp) fun r => by simp [List.lookup_cons]

end Provider

theorem Settings.faithful : Faithful toJson ofJson? :=
  .of_record (by simp) (by simp) fun s => by simp [List.lookup_cons]

/-- What is written of payments, of the provider's data and of the settings is read back from its
text as it was. -/
theorem wire_data_come_back :
    RoundTrips Amount.toJson Amount.ofJson? ∧
    RoundTrips CurrencyUnit.toJson CurrencyUnit.ofJson? ∧
    RoundTrips PaymentResult.toJson PaymentResult.ofJson? ∧
    RoundTrips PaymentStatus.toJson PaymentStatus.ofJson? ∧
    RoundTrips InvoiceResponse.toJson InvoiceResponse.ofJson? ∧
    RoundTrips StatusResponse.toJson StatusResponse.ofJson? ∧
    RoundTrips SettingsResponse.toJson SettingsResponse.ofJson? ∧
    RoundTrips MeltQuoteRequest.toJson MeltQuoteRequest.ofJson? ∧
    RoundTrips MeltQuote.toJson MeltQuote.ofJson? ∧
    RoundTrips PaymentQuoteResponse.toJson PaymentQuoteResponse.ofJson? ∧
    RoundTrips PaymentResponse.toJson PaymentResponse.ofJson? ∧
    RoundTrips ChargeRequest.toJson ChargeRequest.ofJson? ∧
    RoundTrips ChargeStatus.toJson ChargeStatus.ofJson? ∧
    RoundTrips ChargeInvoice.toJson ChargeInvoice.ofJson? ∧
    RoundTrips Charge.toJson Charge.ofJson? ∧
    RoundTrips Wallet.toJson Wallet.ofJson? ∧
    RoundTrips Refusal.toJson Refusal.ofJson? ∧
    RoundTrips Settings.toJson Settings.ofJson? ∧
    RoundTrips (Envelope.toJson Wallet.toJson) (Envelope.ofJson? Wallet.ofJson?) ∧
    RoundTrips (Envelope.toJson Charge.toJson) (Envelope.ofJson? Charge.ofJson?) :=
  ⟨Amount.faithful.roundTrips, CurrencyUnit.faithful.roundTrips, PaymentResult.faithful.roundTrips,
    PaymentStatus.faithful.roundTrips, InvoiceResponse.faithful.roundTrips,
    StatusResponse.faithful.roundTrips, SettingsResponse.faithful.roundTrips,
    MeltQuoteRequest.faithful.roundTrips, MeltQuote.faithful.roundTrips,
    PaymentQuoteResponse.faithful.roundTrips, PaymentResponse.faithful.roundTrips,
    ChargeRequest.faithful.roundTrips, ChargeStatus.faithful.roundTrips,
    ChargeInvoice.faithful.roundTrips, Charge.faithful.roundTrips, Wallet.faithful.roundTrips,
    Refusal.faithful.roundTrips, Settings.faithful.roundTrips,
    (Envelope.faithful Wallet.faithful).roundTrips, (Envelope.faithful Charge.faithful).roundTrips⟩

end LightningDeposit
