import LightningDeposit.Backend
import LightningDeposit.Proofs.Charge.Shape
import LightningDeposit.Proofs.Client.Call

/-!
What is said about the payment of an invoice. An outcome is reported only as the provider's own word
for it, read out of a complete answer of a success status; a word that is not known is unknown, and
where no word was heard the outcome is unknown and a reason is given.
-/

namespace LightningDeposit

open Json (Names valuesOf)

/-- A complete response of a success status whose body is an envelope of a charge with that status,
or without one. -/
def Reply.Reports (reply : Reply) (status : Option Json) : Prop :=
  ∃ code body v data, reply = .response code body ∧ 200 ≤ code ∧ code ≤ 299 ∧
    Json.parse? (Text.ofBytesLossy body) = some v ∧
    Envelope.Carries v data ∧ Charge.Described data status

/-- The members of a charge that cannot be read: no id, two statuses, or one that names nothing. -/
def Charge.Spoiled (members : List (StringLiteral × Json)) : Prop :=
  valuesOf members "id" = [] ∨ 1 < (valuesOf members "status").length ∨
    ∃ s ∈ valuesOf members "status", ∀ word, ¬Names s word

theorem Charge.not_described_of_spoiled {members : List (StringLiteral × Json)}
    (h : Spoiled members) (status : Option Json) : ¬Described (.object members) status := by
  rintro ⟨id, invoice, hfields, hstatus, -⟩
  cases hfields with
  | object _ _ hkeys hvalues =>
    simp only [List.map_cons, List.map_nil, List.cons.injEq, and_true] at hvalues
    obtain ⟨hid, hvalue, -⟩ := hvalues
    rcases h with hnone | htwice | ⟨s, hs, hnames⟩
    · rw [hnone] at hid
      cases hid
    · rw [hvalue] at htwice
      cases status with
      | none => exact absurd htwice (by simp)
      | some s => exact absurd htwice (by simp)
    · rw [hvalue, Option.mem_toList] at hs
      obtain ⟨word, hword⟩ := hstatus s hs
      exact hnames word hword

theorem Envelope.data_of_carries {members : List (StringLiteral × Json)} {data : Json}
    (h : Carries (.object members) data) : valuesOf members "data" = [data] := by
  obtain ⟨success, message, hfields, -⟩ := h
  cases hfields with
  | object _ _ hkeys hvalues =>
    simp only [List.map_cons, List.map_nil, List.cons.injEq, and_true] at hvalues
    exact hvalues.2.1

namespace Reply

variable {reply : Reply} {charge : Charge} {status : Option Json}

theorem Holds.reports (h : reply.Holds Charge.ofJson? charge) :
    ∃ status, reply.Reports status ∧ ChargeStatus.Told status charge.status := by
  obtain ⟨code, body, v, envelope, hreply, hlow, hhigh, hv, hread, hdata⟩ := h
  obtain ⟨data, hcarries, hcharge⟩ := Envelope.ofJson?_iff.mp ⟨envelope, hread, hdata⟩
  obtain ⟨status, hdescribed, htold⟩ := Charge.ofJson?_iff.mp ⟨charge, hcharge, rfl⟩
  exact ⟨status, ⟨code, body, v, data, hreply, hlow, hhigh, hv, hcarries, hdescribed⟩, htold⟩

theorem Reports.holds (h : reply.Reports status) : ∃ charge,
    reply.Holds Charge.ofJson? charge ∧ ChargeStatus.Told status charge.status := by
  obtain ⟨code, body, v, data, hreply, hlow, hhigh, hv, hcarries, hdescribed⟩ := h
  have htold : ∃ state, ChargeStatus.Told status state := by
    cases status with
    | none => exact ⟨_, .absent⟩
    | some s =>
      obtain ⟨id, invoice, -, hnames, -⟩ := hdescribed
      obtain ⟨word, hword⟩ := hnames s rfl
      exact ⟨_, .named hword⟩
  obtain ⟨state, htold⟩ := htold
  obtain ⟨charge, hcharge, rfl⟩ := Charge.ofJson?_iff.mpr ⟨status, hdescribed, htold⟩
  obtain ⟨envelope, hread, hdata⟩ := Envelope.ofJson?_iff.mpr ⟨data, hcarries, hcharge⟩
  exact ⟨charge, ⟨code, body, v, envelope, hreply, hlow, hhigh, hv, hread, hdata⟩, htold⟩

theorem not_reports_of_spoiled {code : ℕ} {body : ByteArray} {members : List (StringLiteral × Json)}
    (hv : Json.parse? (Text.ofBytesLossy body) = some (.object members))
    (h : valuesOf members "data" = [] ∨
      ∃ inner, valuesOf members "data" = [.object inner] ∧ Charge.Spoiled inner)
    (status : Option Json) : ¬(response code body).Reports status := by
  rintro ⟨_, _, v, data, ⟨⟩, -, -, hread, hcarries, hdescribed⟩
  cases hv.symm.trans hread
  have hdata := Envelope.data_of_carries hcarries
  rcases h with hnone | ⟨inner, hinner, hspoiled⟩
  · rw [hnone] at hdata
    cases hdata
  · rw [hinner] at hdata
    cases hdata
    exact Charge.not_described_of_spoiled hspoiled status hdescribed

end Reply

namespace Backend

variable {b : Backend} {id : String} {s : Surroundings} {state : ChargeStatus}

/-- The request about a charge can be made, and its answer is a charge with that status. -/
def Hears (b : Backend) (s : Surroundings) (status : Option Json) : Prop :=
  b.client.CanSend s.exchange ∧ s.exchange.turn.reply.Reports status

/-- The answer gives the charge a status that names this word. -/
def HearsWord (b : Backend) (s : Surroundings) (word : String) : Prop :=
  ∃ status, b.Hears s (some status) ∧ Names status word

/-- What was heard of the charge, as the state that it tells. -/
structure Heard (b : Backend) (s : Surroundings) (state : ChargeStatus) : Prop where
  told : b.Hears s none ∧ state = .pending ∨ ∃ word, b.HearsWord s word ∧ state = .ofName word
  absent : b.Hears s none → state = .pending
  named : ∀ word, b.HearsWord s word → state = .ofName word

theorem heard_of_holds {charge : Charge} (hsend : b.client.CanSend s.exchange)
    (h : s.exchange.turn.reply.Holds Charge.ofJson? charge) : b.Heard s charge.status := by
  have hall (status : Option Json) (hheard : b.Hears s status) :
      ChargeStatus.Told status charge.status := by
    obtain ⟨other, hother, htold⟩ := hheard.2.holds
    rw [← Client.judge_eq_ok_iff] at h hother
    have hsame : charge = other := Except.ok.inj (h.symm.trans hother)
    rw [hsame]
    exact htold
  obtain ⟨status, hreports, htold⟩ := h.reports
  constructor
  · generalize charge.status = state at htold
    cases htold with
    | absent => exact .inl ⟨⟨hsend, hreports⟩, rfl⟩
    | named hword => exact .inr ⟨_, ⟨_, ⟨hsend, hreports⟩, hword⟩, rfl⟩
  · intro hheard
    exact (hall none hheard).eq_pending
  · rintro word ⟨other, hheard, hword⟩
    exact (hall _ hheard).eq_ofName hword

/-- A state that has a word of its own was told by that word, or by silence where it is pending. -/
theorem Heard.eq_iff (h : b.Heard s state) {known : ChargeStatus} (hknown : known ≠ .unknown) :
    state = known ↔ b.HearsWord s known.name ∨ known = .pending ∧ b.Hears s none := by
  constructor
  · rintro rfl
    rcases h.told with ⟨hnone, rfl⟩ | ⟨word, hword, hstate⟩
    · exact .inr ⟨rfl, hnone⟩
    · rw [(ChargeStatus.ofName_eq_iff hknown).mp hstate.symm] at hword
      exact .inl hword
  · rintro (hword | ⟨rfl, hnone⟩)
    · rw [h.named _ hword, ChargeStatus.ofName_name]
    · exact h.absent hnone

theorem Heard.eq_unknown_iff (h : b.Heard s state) : state = .unknown ↔
    ∃ word, b.HearsWord s word ∧ word ∉ ["completed", "expired", "error", "pending"] := by
  constructor
  · rintro rfl
    rcases h.told with ⟨-, hpending⟩ | ⟨word, hword, hstate⟩
    · cases hpending
    · exact ⟨word, hword, ChargeStatus.ofName_eq_unknown_iff.mp hstate.symm⟩
  · rintro ⟨word, hword, hother⟩
    rw [h.named word hword, ChargeStatus.ofName_eq_unknown_iff]
    exact hother

/-- The outcome of a state that was heard goes back to the word for it. -/
theorem Heard.result_iff (h : b.Heard s state) :
    (state.result = .settled ↔ b.HearsWord s "completed") ∧
    (state.result = .failed ↔ b.HearsWord s "expired" ∨ b.HearsWord s "error") ∧
    (state.result = .pending ↔ b.HearsWord s "pending" ∨ b.Hears s none) ∧
    (state.result = .unknown ↔
      ∃ word, b.HearsWord s word ∧ word ∉ ["completed", "expired", "error", "pending"]) := by
  have hword (known : ChargeStatus) (hknown : known ≠ .unknown ∧ known ≠ .pending) :
      state = known ↔ b.HearsWord s known.name := by
    simp only [h.eq_iff hknown.1, hknown.2, false_and, or_false]
  have hcompleted : state = .completed ↔ b.HearsWord s "completed" := hword _ (by decide)
  have hexpired : state = .expired ↔ b.HearsWord s "expired" := hword _ (by decide)
  have herror : state = .error ↔ b.HearsWord s "error" := hword _ (by decide)
  have hpending : state = .pending ↔ b.HearsWord s "pending" ∨ b.Hears s none := by
    rw [h.eq_iff (by decide), eq_self, true_and]
    rfl
  rw [← hcompleted, ← hexpired, ← herror, ← hpending, ← h.eq_unknown_iff]
  cases state <;> simp [ChargeStatus.result]

/-- Something is heard whenever there is a state to tell. -/
theorem Heard.hears (h : b.Heard s state) : ∃ status, b.Hears s status := by
  rcases h.told with ⟨hnone, -⟩ | ⟨word, ⟨status, hstatus, -⟩, -⟩
  · exact ⟨none, hnone⟩
  · exact ⟨some status, hstatus⟩

/-- Either a charge was heard of and its state is passed on, or nothing was and the reason is
given. -/
theorem invoiceStatus_cases (b : Backend) (id : String) (s : Surroundings) :
    (∃ state, b.Heard s state ∧ (b.invoiceStatus id s).1 = .of state.result) ∨
      (∀ status, ¬b.Hears s status) ∧
        ∃ reason, reason ≠ "" ∧ (b.invoiceStatus id s).1 = .unknown reason := by
  have hreason (cause : ClientError) : "ZBD get_invoice_status failed: " ++ cause.message ≠ "" := by
    simp
  by_cases hsend : b.client.CanSend s.exchange
  · obtain ⟨request, hcall⟩ :=
      Client.call_sends hsend "GET" ("/v1/charges/" ++ id) none Charge.ofJson?
    cases hjudge : Client.judge Charge.ofJson? s.exchange.turn.reply with
    | ok charge =>
      refine .inl ⟨charge.status, heard_of_holds hsend (Client.judge_eq_ok_iff.mp hjudge), ?_⟩
      simp only [invoiceStatus, Client.charge, hcall, hjudge]
    | error cause =>
      refine .inr ⟨?_, _, hreason cause, ?_⟩
      · rintro status ⟨-, hreports⟩
        obtain ⟨charge, hholds, -⟩ := hreports.holds
        rw [Client.judge_eq_ok_iff.mpr hholds] at hjudge
        cases hjudge
      · simp only [invoiceStatus, Client.charge, hcall, hjudge]
  · obtain ⟨cause, hcall⟩ :=
      Client.call_of_not_canSend hsend "GET" ("/v1/charges/" ++ id) none Charge.ofJson?
    refine .inr ⟨fun status hheard => hsend hheard.1, _, hreason cause, ?_⟩
    simp only [invoiceStatus, Client.charge, hcall]

/-- A status check makes one request or none, and the rate slot is no part of it. -/
theorem invoiceStatus_sends (b : Backend) (id : String) (s : Surroundings) :
    (b.client.CanSend s.exchange → ∃ request,
      (b.invoiceStatus id s).2 = ⟨s.exchange.after request, s.slot⟩) ∧
    (¬b.client.CanSend s.exchange → (b.invoiceStatus id s).2 = s) := by
  constructor
  · intro hsend
    obtain ⟨request, hcall⟩ :=
      Client.call_sends hsend "GET" ("/v1/charges/" ++ id) none Charge.ofJson?
    exact ⟨request, by simp only [invoiceStatus, Client.charge, hcall]⟩
  · intro hsend
    obtain ⟨cause, hcall⟩ :=
      Client.call_of_not_canSend hsend "GET" ("/v1/charges/" ++ id) none Charge.ofJson?
    simp only [invoiceStatus, Client.charge, hcall]

/-- Settlement is never guessed. Each outcome is reported exactly when the answer to the one request
gives the word for it, and pending also when the charge has no status; other words are unknown
without a reason. Where no charge was heard of, and none can be read without its data, without an
id, with two statuses or with one that names nothing, the outcome is unknown and a reason is
given. -/
theorem invoiceStatus_never_guessed (b : Backend) (id : String) (s : Surroundings) :
    let answer := (b.invoiceStatus id s).1
    ((b.client.CanSend s.exchange → ∃ request,
        (b.invoiceStatus id s).2 = ⟨s.exchange.after request, s.slot⟩) ∧
      (¬b.client.CanSend s.exchange → (b.invoiceStatus id s).2 = s)) ∧
    (answer.result = .settled ↔ b.HearsWord s "completed") ∧
    (answer.result = .failed ↔ b.HearsWord s "expired" ∨ b.HearsWord s "error") ∧
    (answer.result = .pending ↔ b.HearsWord s "pending" ∨ b.Hears s none) ∧
    (answer = ⟨.unknown, none⟩ ↔
      ∃ word, b.HearsWord s word ∧ word ∉ ["completed", "expired", "error", "pending"]) ∧
    (answer.errorMessage = none ↔ ∃ status, b.Hears s status) ∧
    (∀ reason ∈ answer.errorMessage, answer.result = .unknown ∧ reason ≠ "") ∧
    ∀ code body members, s.exchange.turn.reply = .response code body →
      Json.parse? (Text.ofBytesLossy body) = some (.object members) →
      (valuesOf members "data" = [] ∨
        ∃ inner, valuesOf members "data" = [.object inner] ∧ Charge.Spoiled inner) →
      answer.errorMessage ≠ none := by
  intro answer
  refine ⟨invoiceStatus_sends b id s, ?_⟩
  rcases invoiceStatus_cases b id s with ⟨state, hheard, heq⟩ | ⟨hnone, reason, hreason, heq⟩
  · obtain ⟨hsettled, hfailed, hpending, hunknown⟩ := hheard.result_iff
    have hhears := hheard.hears
    simp only [answer, heq, PaymentStatus.of, hsettled, hfailed, hpending, true_and]
    refine ⟨?_, iff_of_true trivial hhears, ?_, ?_⟩
    · rw [← hunknown]
      simp
    · rintro _ ⟨⟩
    · rintro code body members hreply hv h
      obtain ⟨status, -, hreports⟩ := hhears
      rw [hreply] at hreports
      exact absurd hreports (Reply.not_reports_of_spoiled hv h status)
  · have hsilent (word : String) : ¬b.HearsWord s word := by
      rintro ⟨status, hheard, -⟩
      exact hnone _ hheard
    simp only [answer, heq, PaymentStatus.unknown, hsilent, hnone]
    simp [hreason]

end Backend

end LightningDeposit
