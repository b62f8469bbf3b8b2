import LightningDeposit.Charge.Wire
import LightningDeposit.Proofs.Json.Growth
import LightningDeposit.Settings

/-!
What the provider may add to its data. Each record of an answer, of a refusal and of settings may be
given members under keys that it has no fields for, and its members may come in another order: what
is read of the text stays the same.
-/

namespace LightningDeposit

open Json (ReadAlike Spaces Written WrittenMember Under Flat IsText)

section Records

variable {t t' : Written}

namespace Wallet

def Grows : Written → Written → Prop := Json.Grows ["balance", "unit"] Flat

theorem ofJson?_eq (h : Grows t t') : ofJson? t.value = ofJson? t'.value := by
  unfold ofJson?
  apply h.bind_eq_of_flat
  intro f g hfields
  simp [hfields]

end Wallet

namespace Price

def Grows : Written → Written → Prop := Json.Grows ["btcUsdPrice", "btcUsdTimestamp"] Flat

theorem ofJson?_eq (h : Grows t t') (enclosing : Nat) :
    ofJson? enclosing t.value = ofJson? enclosing t'.value := by
  unfold ofJson?
  apply h.bind_eq_of_flat
  intro f g hfields
  simp [hfields]

end Price

namespace ChargeInvoice

def Grows : Written → Written → Prop := Json.Grows ["request", "uri"] Flat

theorem ofJson?_eq (h : Grows t t') : ofJson? t.value = ofJson? t'.value := by
  unfold ofJson?
  apply h.bind_eq_of_flat
  intro f g hfields
  simp [hfields]

end ChargeInvoice

namespace Refusal

def Grows : Written → Written → Prop := Json.Grows ["success", "message"] Flat

theorem ofJson?_eq (h : Grows t t') : ofJson? t.value = ofJson? t'.value := by
  unfold ofJson?
  apply h.bind_eq_of_flat
  intro f g hfields
  simp [hfields]

end Refusal

namespace Settings

def Grows : Written → Written → Prop :=
  Json.Grows ["api_key", "api_url", "callback_url", "redis_url", "invoice_expiry_secs",
    "invoice_description", "timeout_ms"] Flat

theorem ofJson?_eq (h : Grows t t') : ofJson? t.value = ofJson? t'.value := by
  unfold ofJson?
  apply h.bind_eq_of_flat
  intro f g hfields
  simp [hfields]

end Settings

namespace Charge

/-- The invoice of a charge may have grown with it. -/
def Grows : Written → Written → Prop :=
  Json.Grows ["id", "status", "invoice"] (Under "invoice" ChargeInvoice.Grows)

theorem ofJson?_eq (h : Grows t t') : ofJson? t.value = ofJson? t'.value := by
  unfold ofJson?
  apply Json.bind_congr_of_rel h.fields?_grows
  intro f g hfields
  have hid : f "id" = g "id" := (hfields "id" (by simp)).eq_of_under (by simp)
  have hstatus : f "status" = g "status" :=
    (hfields "status" (by simp)).eq_of_under (by simp)
  have hinvoice := (hfields "invoice" (by simp)).withDefault_eq
    (fun t t' hunder => hunder.read_eq fun hinvoice =>
      hinvoice.nullable?_eq (ChargeInvoice.ofJson?_eq hinvoice)) none
  simp only [hid, hstatus, hinvoice]

end Charge

namespace Envelope

/-- The data in an envelope may have grown with it. -/
def Grows (grows : Written → Written → Prop) : Written → Written → Prop :=
  Json.Grows ["success", "data", "message"] (Under "data" grows)

theorem ofJson?_eq {α : Type} {decode : Json → Option α} {grows : Written → Written → Prop}
    (hdecode : ∀ t t', grows t t' → decode t.value = decode t'.value)
    (h : Grows grows t t') : ofJson? decode t.value = ofJson? decode t'.value := by
  unfold ofJson?
  apply Json.bind_congr_of_rel h.fields?_grows
  intro f g hfields
  have hsuccess : f "success" = g "success" :=
    (hfields "success" (by simp)).eq_of_under (by simp)
  have hmessage : f "message" = g "message" :=
    (hfields "message" (by simp)).eq_of_under (by simp)
  have hdata := (hfields "data" (by simp)).required_eq
    fun t t' hunder => hunder.read_eq (hdecode t t')
  simp only [hsuccess, hmessage, hdata]

end Envelope

end Records

/-- Every text that is JSON is of a value, and every object and array in it is laid out in members
and items, between which and around which others may be put. In whatever places of the envelope, the
wallet, the price, the charge, its invoice, the refusal and the settings members are added under
keys that are none of their fields, and in whatever order their members come, what is read of the
text is the same. -/
theorem additions_harmless :
    (∀ text v, Json.parse? text = some v → ∃ t : Written, t.text = text ∧ t.value = v) ∧
    (∀ (t : Written) members, t.value = .object members →
      ∃ before inside after written, t = .object before inside after written) ∧
    (∀ (t : Written) items, t.value = .array items →
      ∃ before inside after written, t = .array before inside after written) ∧
    ReadAlike (Envelope.Grows Wallet.Grows) (Envelope.ofJson? Wallet.ofJson?) ∧
    ReadAlike (Envelope.Grows Price.Grows) (Envelope.ofJson? (Price.ofJson? 1)) ∧
    ReadAlike (Envelope.Grows Charge.Grows) (Envelope.ofJson? Charge.ofJson?) ∧
    ReadAlike Refusal.Grows Refusal.ofJson? ∧
    ReadAlike Settings.Grows Settings.ofJson? := by
  have henvelope {α : Type} {decode : Json → Option α} {grows : Written → Written → Prop}
      (hdecode : ∀ t t', grows t t' → decode t.value = decode t'.value) :
      ReadAlike (Envelope.Grows grows) (Envelope.ofJson? decode) :=
    Json.readAlike_of_value fun t t' h => Envelope.ofJson?_eq hdecode h
  refine ⟨?_, ?_, ?_, henvelope ?_, henvelope ?_, henvelope ?_, ?_, ?_⟩
  · intro text v htext
    exact ⟨⟨text, v, Json.parse?_eq_some_iff.mp htext⟩, rfl, rfl⟩
  · intro t members h
    exact Written.exists_object h
  · intro t items h
    exact Written.exists_array h
  · intro t t' h
    exact Wallet.ofJson?_eq h
  · intro t t' h
    exact Price.ofJson?_eq h 1
  · intro t t' h
    exact Charge.ofJson?_eq h
  · exact Json.readAlike_of_value fun t t' h => Refusal.ofJson?_eq h
  · exact Json.readAlike_of_value fun t t' h => Settings.ofJson?_eq h

/-- A charge with an invoice, to which a deep value, half of a surrogate pair and two fees are
added. -/
theorem additions_harmless_to_charge :
    let text := "\x7b\"data\":\x7b\"id\":\"c1\",\"invoice\":\x7b\"request\":\"lnbc1\"\x7d\x7d," ++
      "\"message\":null\x7d"
    let grown := "\x7b\"message\":null,\"\\u0061dded\" : [[[1e999]],\"\\ud800\"],\"data\":" ++
      "\x7b\"invoice\":\x7b\"fee\":0,\"request\":\"lnbc1\",\"fee\":1\x7d,\"id\":\"c1\"\x7d\x7d"
    (∃ t t' : Written, t.text = text ∧ t'.text = grown ∧ Envelope.Grows Charge.Grows t t') ∧
      (Json.parse? grown).bind (Envelope.ofJson? Charge.ofJson?) =
        some ⟨none, ⟨"c1", .pending, some ⟨"lnbc1", none⟩⟩, none⟩ := by
  intro text grown
  let gap : Spaces := ⟨"", by simp⟩
  let request := WrittenMember.named "request" (.ofJson (Json.text "lnbc1") trivial)
  let fee (n : ℕ) := WrittenMember.named "fee" (.ofJson (Json.nat n) (Json.wellFormed_nat n))
  let id := WrittenMember.named "id" (.ofJson (Json.text "c1") trivial)
  let message := WrittenMember.named "message" (.ofJson .null trivial)
  let huge : NumberLiteral := ⟨false, ['1'], none, some (false, ['9', '9', '9'])⟩
  let deep : Json := .array [.array [.array [.number huge]], .string none]
  have hhuge : huge.WellFormed := by
    constructor <;> simp [huge, NumberLiteral.IsDigits]
  have hdeep : IsText " [[[1e999]],\"\\ud800\"]" deep :=
    Json.isText_of_write_eq ⟨⟨⟨hhuge, trivial⟩, trivial⟩, trivial, trivial⟩ (by decide +kernel)
  have hkey : IsText "\"\\u0061dded\" " (Json.text "added") :=
    Json.isText_of_write_eq trivial (by decide +kernel)
  let added : WrittenMember := ⟨_, some "added", hkey, ⟨_, deep, hdeep⟩⟩
  let invoice := Written.object gap gap gap [request]
  let invoice' := Written.object gap gap gap [fee 0, request, fee 1]
  let charge := Written.object gap gap gap [id, .named "invoice" invoice]
  let charge' := Written.object gap gap gap [.named "invoice" invoice', id]
  have hinvoice : ChargeInvoice.Grows invoice invoice' :=
    .object gap gap gap (.added (fee 0) rfl (by decide)
      (.kept request rfl (.added (fee 1) rfl (by decide) .nil))) (.refl _)
  have hcharge : Charge.Grows charge charge' :=
    .object gap gap gap (.kept id (.inl rfl)
      (.kept (.named "invoice" invoice) (.inr ⟨rfl, hinvoice⟩) .nil)) (.swap _ _ [])
  have hgrown : Envelope.Grows Charge.Grows
      (.object gap gap gap [.named "data" charge, message])
      (.object gap gap gap [message, added, .named "data" charge']) :=
    .object gap gap gap (.kept (.named "data" charge) (.inr ⟨rfl, hcharge⟩)
      (.added added rfl (by decide) (.kept message (.inl rfl) .nil)))
      (List.reverse_perm _).symm
  have htexts : ∃ t t' : Written, t.text = text ∧ t'.text = grown ∧
      Envelope.Grows Charge.Grows t t' := ⟨_, _, rfl, rfl, hgrown⟩
  have hread : (Json.parse? text).bind (Envelope.ofJson? Charge.ofJson?) =
      some ⟨none, ⟨"c1", .pending, some ⟨"lnbc1", none⟩⟩, none⟩ := by
    decide
  refine ⟨htexts, ?_⟩
  obtain ⟨-, -, -, -, -, hcharges, -⟩ := additions_harmless
  obtain ⟨t, t', ht, ht', hgrows⟩ := htexts
  rw [← ht', hcharges t t' hgrows, ht, hread]

end LightningDeposit
