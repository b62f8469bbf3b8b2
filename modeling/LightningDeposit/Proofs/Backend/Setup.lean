import LightningDeposit.Proofs.Invoice.Amount

/-!
How setting up a backend fails, and which failures are put down to its configuration. The unit and
the key are; an address that cannot be read is not, though nothing but the settings is at fault
there. No operation of a backend that is set up puts a failure down to its configuration.
-/

namespace LightningDeposit.Backend

/-- Why a backend cannot be set up, by the first of the three checks that fails. -/
inductive Unfit (settings : Settings) (unit : CurrencyUnit) : BackendError → Prop
  | unit (hunit : unit ∉ supportedUnits) : Unfit settings unit (.unsupportedUnit unit)
  | key (hunit : unit ∈ supportedUnits) (hkey : Text.trim settings.apiKey = "") :
    Unfit settings unit .missingApiKey
  | address (hunit : unit ∈ supportedUnits) (hkey : Text.trim settings.apiKey ≠ "")
    {reason : UrlError} (haddress : Url.parse settings.apiUrl = .error reason) :
    Unfit settings unit (.client (.invalidUrl reason))

variable {settings : Settings} {unit : CurrencyUnit} {cause : BackendError} {b : Backend}

theorem Unfit.new_eq (h : Unfit settings unit cause) : new settings unit = .error cause := by
  cases h with
  | unit hunit => simp [new, hunit]
  | key hunit hkey => simp [new, hunit, hkey]
  | address hunit hkey haddress => simp [new, Client.new, hunit, hkey, haddress]

/-- The backend that settings describe, once their address is read. An empty text counts as none
where a text may be absent. -/
def ofSettings (settings : Settings) (unit : CurrencyUnit) (baseUrl : Url) : Backend where
  client := ⟨settings.apiKey, baseUrl⟩
  unit := unit
  callbackUrl := settings.callbackUrl.bind Settings.nonEmpty
  redisUrl := settings.redisUrl.bind Settings.nonEmpty
  invoiceExpirySecs := settings.invoiceExpirySecs
  invoiceDescription := settings.invoiceDescription

/-- All three checks are passed. -/
structure Fit (settings : Settings) (unit : CurrencyUnit) (baseUrl : Url) : Prop where
  unit : unit ∈ supportedUnits
  key : Text.trim settings.apiKey ≠ ""
  address : Url.parse settings.apiUrl = .ok baseUrl

theorem Fit.new_eq {baseUrl : Url} (h : Fit settings unit baseUrl) :
    new settings unit = .ok (ofSettings settings unit baseUrl) := by
  simp [new, Client.new, h.unit, h.key, h.address, ofSettings]

theorem fit_or_unfit (settings : Settings) (unit : CurrencyUnit) :
    (∃ baseUrl, Fit settings unit baseUrl) ∨ ∃ cause, Unfit settings unit cause := by
  by_cases hunit : unit ∈ supportedUnits
  · by_cases hkey : Text.trim settings.apiKey = ""
    · exact .inr ⟨_, .key hunit hkey⟩
    · cases haddress : Url.parse settings.apiUrl with
      | ok baseUrl => exact .inl ⟨baseUrl, hunit, hkey, haddress⟩
      | error reason => exact .inr ⟨_, .address hunit hkey haddress⟩
  · exact .inr ⟨_, .unit hunit⟩

theorem new_eq_error_iff : new settings unit = .error cause ↔ Unfit settings unit cause := by
  refine ⟨fun h => ?_, Unfit.new_eq⟩
  rcases fit_or_unfit settings unit with ⟨baseUrl, hfit⟩ | ⟨found, hunfit⟩
  · rw [hfit.new_eq] at h
    cases h
  · rw [hunfit.new_eq] at h
    cases h
    exact hunfit

theorem new_eq_ok_iff : new settings unit = .ok b ↔
    ∃ baseUrl, Fit settings unit baseUrl ∧ b = ofSettings settings unit baseUrl := by
  constructor
  · intro h
    rcases fit_or_unfit settings unit with ⟨baseUrl, hfit⟩ | ⟨found, hunfit⟩
    · rw [hfit.new_eq] at h
      cases h
      exact ⟨baseUrl, hfit, rfl⟩
    · rw [hunfit.new_eq] at h
      cases h
  · rintro ⟨baseUrl, hfit, rfl⟩
    exact hfit.new_eq

/-- The cause blames the configuration unless the address was to blame. -/
theorem Unfit.isConfiguration_iff (h : Unfit settings unit cause) :
    cause.isConfiguration = true ↔ unit ∉ supportedUnits ∨ Text.trim settings.apiKey = "" := by
  cases h with
  | unit hunit => exact iff_of_true rfl (.inl hunit)
  | key _ hkey => exact iff_of_true rfl (.inr hkey)
  | address hunit hkey => exact iff_of_false Bool.false_ne_true (by simp [hunit, hkey])

/-- An operation of a backend that answers with a failure does so for this cause. -/
inductive FailsWith (b : Backend) : BackendError → Prop
  | rate (s : Surroundings) {cause : BackendError} (h : (b.exchangeRate s).1 = .error cause) :
    FailsWith b cause
  | pay (quote : MeltQuote) (feeLimitMsat : UInt64) {cause : BackendError}
    (h : b.payInvoice quote feeLimitMsat = .error cause) : FailsWith b cause
  | payment (checkingId : String) {cause : BackendError}
    (h : b.paymentStatus checkingId = .error cause) : FailsWith b cause
  | quote (request : MeltQuoteRequest) {cause : BackendError}
    (h : b.paymentQuote request = .error cause) : FailsWith b cause

theorem FailsWith.not_configuration {b : Backend} (h : b.FailsWith cause) :
    cause.isConfiguration = false := by
  cases h with
  | rate s h =>
    obtain ⟨reason, rfl⟩ := exchangeRate_eq_error h
    rfl
  | pay quote feeLimitMsat h =>
    cases h
    rfl
  | payment checkingId h =>
    cases h
    rfl
  | quote request h =>
    cases h
    rfl

/-- Setting up a backend fails on the unit, the key or the address, and the failure is put down to
the configuration exactly if it is not the address. What an operation fails with later is never put
down to the configuration. -/
theorem configuration_blamed_iff (settings : Settings) (unit : CurrencyUnit) :
    (∀ cause, new settings unit = .error cause ↔ Unfit settings unit cause) ∧
    (∀ cause, new settings unit = .error cause →
      (cause.isConfiguration = true ↔
        unit ∉ supportedUnits ∨ Text.trim settings.apiKey = "")) ∧
    ∀ b, new settings unit = .ok b → ∀ cause, b.FailsWith cause → cause.isConfiguration = false :=
  ⟨fun _ => new_eq_error_iff, fun _ h => (new_eq_error_iff.mp h).isConfiguration_iff,
    fun _ _ _ h => h.not_configuration⟩

/-- An address without a scheme stops a backend from being set up, and is not blamed on its
configuration. -/
theorem bad_address_not_blamed :
    let settings := { Settings.ofApiKey "key" with apiUrl := "not a url" }
    new settings .sat = .error (.client (.invalidUrl .relativeWithoutBase)) ∧
      (BackendError.client (.invalidUrl .relativeWithoutBase)).isConfiguration = false := by
  decide

end LightningDeposit.Backend
