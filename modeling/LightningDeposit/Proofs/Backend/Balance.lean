import LightningDeposit.Proofs.Charge.Shape
import LightningDeposit.Proofs.Invoice.Creation
import LightningDeposit.Proofs.Json.Word

/-!
What is said about the balance. Wallets are told without their reader; a balance is reported exactly
when the answer was that of a wallet, in whole satoshis with the rest of one dropped, and otherwise it
is nought with a reason, so a nought without a reason is a real one.
-/

namespace LightningDeposit

open Json (HasFields)

namespace Wallet

/-- The balance that a value stands for, or nought where there is none. It has to fit 64 bits. -/
inductive Told : Option Json → ℕ → Prop
  | absent : Told none 0
  | given {v : Json} {msats : ℕ} (h : v.Gives msats) (hfits : msats < 2 ^ 64) :
    Told (some v) msats

/-- A wallet with that balance in millisatoshis, with or without the unit of it. -/
def Described (v : Json) (msats : ℕ) : Prop :=
  ∃ balance unit, HasFields ["balance", "unit"] v [balance, unit] ∧ Told balance msats ∧
    ∀ u ∈ unit, u = .null ∨ ∃ t, u = Json.text t

theorem withDefault_eq_some_iff {f : Json.Field} {msats : ℕ} :
    (∃ balance, f.withDefault 0 Json.wordOrText? = some balance ∧ balance.toNat = msats) ↔
      Told f.value? msats := by
  cases hvalue : f.value? with
  | none =>
    rw [Json.Field.withDefault_of_none hvalue]
    constructor
    · rintro ⟨_, ⟨⟩, rfl⟩
      exact .absent
    · rintro ⟨⟩
      exact ⟨0, rfl, rfl⟩
  | some v =>
    rw [Json.Field.withDefault_of_value? hvalue]
    constructor
    · rintro ⟨balance, hread, rfl⟩
      exact .given (Json.wordOrText?_eq_some_iff.mp hread) balance.toNat_lt
    · intro h
      cases h with
      | given hgives hfits =>
        have hword : (UInt64.ofNat msats).toNat = msats := UInt64.toNat_ofNat_of_lt hfits
        rw [← hword] at hgives
        exact ⟨_, Json.wordOrText?_eq_some_iff.mpr hgives, hword⟩

/-- A wallet is read if it has the shape of one, with the balance that it tells. -/
theorem ofJson?_iff {v : Json} {msats : ℕ} :
    (∃ wallet, ofJson? v = some wallet ∧ wallet.balance.toNat = msats) ↔ Described v msats := by
  have hnames : ["balance", "unit"].Nodup := by decide
  constructor
  · rintro ⟨wallet, hwallet, hmsats⟩
    simp only [ofJson?, Option.bind_eq_bind, Option.bind_eq_some_iff, Option.pure_def] at hwallet
    obtain ⟨field, hfield, balance, hbalance, unit, hunit, hwallet⟩ := hwallet
    cases hwallet
    refine ⟨(field "balance").value?, (field "unit").value?, ?_, ?_, ?_⟩
    · exact (Json.hasFields_iff hnames).mpr ⟨field, hfield, rfl⟩
    · exact withDefault_eq_some_iff.mp ⟨balance, hbalance, hmsats⟩
    · exact nullableText_iff.mp ⟨unit, hunit⟩
  · rintro ⟨_, _, hfields, htold, hunit⟩
    obtain ⟨field, hfield, hvalues⟩ := (Json.hasFields_iff hnames).mp hfields
    simp only [List.map_cons, List.map_nil, List.cons.injEq, and_true] at hvalues
    obtain ⟨rfl, rfl⟩ := hvalues
    obtain ⟨balance, hbalance, hmsats⟩ := withDefault_eq_some_iff.mpr htold
    obtain ⟨u, hu⟩ := nullableText_iff.mpr hunit
    exact ⟨⟨balance, u⟩, by simp [ofJson?, hfield, hbalance, hu], hmsats⟩

end Wallet

/-- A complete response of a success status whose body is an envelope of a wallet with that
balance. -/
def Reply.Banks (reply : Reply) (msats : ℕ) : Prop :=
  ∃ status body v data, reply = .response status body ∧ 200 ≤ status ∧ status ≤ 299 ∧
    Json.parse? (Text.ofBytesLossy body) = some v ∧ Envelope.Carries v data ∧
    Wallet.Described data msats

theorem Reply.banks_iff {reply : Reply} {msats : ℕ} : reply.Banks msats ↔
    ∃ wallet, reply.Holds Wallet.ofJson? wallet ∧ wallet.balance.toNat = msats := by
  constructor
  · rintro ⟨status, body, v, data, hreply, hlow, hhigh, hv, hcarries, hdescribed⟩
    obtain ⟨wallet, hwallet, hmsats⟩ := Wallet.ofJson?_iff.mpr hdescribed
    obtain ⟨envelope, hread, hdata⟩ := Envelope.ofJson?_iff.mpr ⟨data, hcarries, hwallet⟩
    exact ⟨wallet, ⟨status, body, v, envelope, hreply, hlow, hhigh, hv, hread, hdata⟩, hmsats⟩
  · rintro ⟨wallet, ⟨status, body, v, envelope, hreply, hlow, hhigh, hv, hread, hdata⟩, hmsats⟩
    obtain ⟨data, hcarries, hwallet⟩ := Envelope.ofJson?_iff.mp ⟨envelope, hread, hdata⟩
    exact ⟨status, body, v, data, hreply, hlow, hhigh, hv, hcarries,
      Wallet.ofJson?_iff.mp ⟨wallet, hwallet, hmsats⟩⟩

namespace Backend

variable {b : Backend} {s : Surroundings} {msats : ℕ}

/-- The request for the wallet can be made, and its answer is a wallet with that balance. -/
def HearsBalance (b : Backend) (s : Surroundings) (msats : ℕ) : Prop :=
  b.client.CanSend s.exchange ∧ s.exchange.turn.reply.Banks msats

/-- Either a balance was heard and is told in satoshis, or none was and the reason is given. -/
theorem status_cases (b : Backend) (s : Surroundings) :
    (∃ msats : UInt64, b.HearsBalance s msats.toNat ∧
      (∀ other, b.HearsBalance s other → other = msats.toNat) ∧
      (b.status s).1 = ⟨.sat (msats / Pricing.msatsPerSat), none⟩) ∨
    (∀ msats, ¬b.HearsBalance s msats) ∧ ∃ cause : ClientError,
      (b.status s).1 = ⟨.sat 0, some ("ZBD status check failed: " ++ cause.message)⟩ := by
  by_cases hsend : b.client.CanSend s.exchange
  · obtain ⟨request, hcall⟩ := Client.call_sends hsend "GET" "/v1/wallet" none Wallet.ofJson?
    cases hjudge : Client.judge Wallet.ofJson? s.exchange.turn.reply with
    | ok wallet =>
      refine .inl ⟨wallet.balance, ⟨hsend, ?_⟩, ?_, ?_⟩
      · exact Reply.banks_iff.mpr ⟨wallet, Client.judge_eq_ok_iff.mp hjudge, rfl⟩
      · rintro _ ⟨-, hbanks⟩
        obtain ⟨other, hholds, rfl⟩ := Reply.banks_iff.mp hbanks
        rw [← Client.judge_eq_ok_iff, hjudge] at hholds
        cases hholds
        rfl
      · simp only [status, Client.wallet, hcall, hjudge]
    | error cause =>
      refine .inr ⟨?_, cause, ?_⟩
      · rintro _ ⟨-, hbanks⟩
        obtain ⟨wallet, hholds, -⟩ := Reply.banks_iff.mp hbanks
        rw [← Client.judge_eq_ok_iff, hjudge] at hholds
        cases hholds
      · simp only [status, Client.wallet, hcall, hjudge]
  · obtain ⟨cause, hcall⟩ :=
      Client.call_of_not_canSend hsend "GET" "/v1/wallet" none Wallet.ofJson?
    refine .inr ⟨fun msats hheard => hsend hheard.1, cause, ?_⟩
    simp only [status, Client.wallet, hcall]

theorem div_msatsPerSat_bounds (msats : UInt64) :
    1000 * (msats / Pricing.msatsPerSat).toNat ≤ msats.toNat ∧
      msats.toNat < 1000 * ((msats / Pricing.msatsPerSat).toNat + 1) := by
  have hdiv : (msats / Pricing.msatsPerSat).toNat = msats.toNat / 1000 := UInt64.toNat_div _ _
  rw [hdiv]
  omega

/-- A balance is never made up. Whatever comes back, and whatever the unit of the backend, there is no
reason in the answer exactly when a wallet was heard of in full; then the balance is that of the
wallet in satoshis, rounded down. In every other case it is nought, and the reason begins with the
words for that. -/
theorem balance_reported (b : Backend) (s : Surroundings) :
    let answer := (b.status s).1
    answer.balance.unit = .sat ∧
    (answer.errorMessage = none ↔ ∃ msats, b.HearsBalance s msats) ∧
    (∀ msats, b.HearsBalance s msats →
      1000 * answer.balance.value.toNat ≤ msats ∧
        msats < 1000 * (answer.balance.value.toNat + 1)) ∧
    ((¬∃ msats, b.HearsBalance s msats) → answer.balance = .sat 0 ∧
      ∃ reason ∈ answer.errorMessage, reason ≠ "" ∧
        Text.Begins reason "ZBD status check failed: ") := by
  intro answer
  rcases status_cases b s with ⟨msats, hheard, honly, heq⟩ | ⟨hnone, cause, heq⟩
  · rw [show answer = _ from heq]
    refine ⟨rfl, iff_of_true rfl ⟨_, hheard⟩, fun other hother => ?_, fun h => ?_⟩
    · rw [honly other hother]
      exact div_msatsPerSat_bounds msats
    · exact absurd ⟨_, hheard⟩ h
  · have hsilent : ¬∃ msats, b.HearsBalance s msats := not_exists.mpr hnone
    rw [show answer = _ from heq]
    refine ⟨rfl, iff_of_false nofun hsilent, fun msats hheard => ?_, fun _ => ⟨rfl, _, rfl, ?_, ?_⟩⟩
    · exact absurd hheard (hnone msats)
    · simp
    · exact Text.begins_append (List.prefix_refl _) cause.message

/-- The largest balance there is, as a text with a plus sign, a zero in front and blanks around. -/
theorem balance_reported_at_largest :
    let client : Client := ⟨"key", ⟨"http", "", "", some (.ipv4 2130706433), some 1, .segments [""],
      none, none⟩⟩
    let b : Backend := ⟨client, .usd, none, none, 900, "deposit"⟩
    let body := "\x7b\"data\":\x7b\"balance\":\" +018446744073709551615\\n\"\x7d\x7d".toUTF8
    let s : Surroundings := ⟨⟨1000, true, [⟨.response 200 body, none⟩], []⟩, none⟩
    b.HearsBalance s (2 ^ 64 - 1) ∧
      1000 * (b.status s).1.balance.value.toNat ≤ 2 ^ 64 - 1 ∧
      2 ^ 64 - 1 < 1000 * ((b.status s).1.balance.value.toNat + 1) := by
  intro client b body s
  have hsend : client.CanSend s.exchange := by
    refine ⟨rfl, ?_, ?_, [""], rfl⟩ <;> decide
  have hread : ((Json.parse? (Text.ofBytesLossy body)).bind
      (Envelope.ofJson? Wallet.ofJson?)) = some ⟨none, ⟨18446744073709551615, none⟩, none⟩ := by
    decide
  obtain ⟨v, hv, henvelope⟩ := Option.bind_eq_some_iff.mp hread
  have hheard : b.HearsBalance s (2 ^ 64 - 1) :=
    ⟨hsend, Reply.banks_iff.mpr ⟨⟨18446744073709551615, none⟩,
      ⟨200, body, v, _, rfl, by decide, by decide, hv, henvelope, rfl⟩, rfl⟩⟩
  exact ⟨hheard, (balance_reported b s).2.2.1 _ hheard⟩

end Backend

end LightningDeposit
