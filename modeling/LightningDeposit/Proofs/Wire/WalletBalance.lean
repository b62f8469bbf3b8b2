import LightningDeposit.Proofs.Backend.Balance
import LightningDeposit.Proofs.Json.RoundTrip

/-!
The balance of a wallet, which comes as a number or as a text. Both are told without their readers,
over all numbers; a wallet is read with just the balances told here that fit 64 bits, so nothing is
cut off or wrapped around, and what is not an amount spoils the whole wallet.
-/

namespace LightningDeposit

namespace Json

/-- The value is that amount: a literal of digits alone, with no zero in front of others, or the text
of a numeral. -/
inductive Amount : Json → ℕ → Prop
  | literal {digits : List Char} (hdigits : NumberLiteral.IsDigits digits)
    (hzero : digits.head? = some '0' → digits = ['0']) :
    Amount (.number ⟨false, digits, none, none⟩) (Nat.ofDigitChars 10 digits 0)
  | text {s : String} {n : ℕ} (h : Text.Numeral s n) : Amount (.string (some s)) n

/-- The value is a word as JSON writes it, or a text of its digits with any zeros in front of them and
any blanks around. -/
inductive Writes (n : UInt64) : Json → Prop
  | number : Writes n (word n)
  | digits {before zeros after : List Char} (hbefore : ∀ c ∈ before, Text.isBlank c = true)
    (hzeros : ∀ c ∈ zeros, c = '0') (hafter : ∀ c ∈ after, Text.isBlank c = true) :
    Writes n (.text (String.ofList (before ++ (zeros ++ Nat.toDigits 10 n.toNat) ++ after)))

variable {v : Json} {n : ℕ}

theorem amount_iff_gives (hv : v.WellFormed) : v.Amount n ↔ v.Gives n := by
  constructor
  · intro h
    cases h with
    | literal => exact .literal _
    | text h => exact .text h
  · intro h
    cases h with
    | literal digits => exact .literal hv.whole hv.zero
    | text h => exact .text h

theorem ofDigitChars_zeros {zeros : List Char} (hzeros : ∀ c ∈ zeros, c = '0')
    (digits : List Char) :
    Nat.ofDigitChars 10 (zeros ++ digits) 0 = Nat.ofDigitChars 10 digits 0 := by
  induction zeros with
  | nil => rfl
  | cons c rest ih =>
    obtain rfl := hzeros c List.mem_cons_self
    rw [List.cons_append, Nat.ofDigitChars_cons]
    exact ih fun d hd => hzeros d (List.mem_cons_of_mem _ hd)

/-- A word is the amount that it is written as. -/
theorem Writes.amount {w : UInt64} (h : Writes w v) : v.Amount w.toNat := by
  have hvalue : Nat.ofDigitChars 10 (Nat.toDigits 10 w.toNat) 0 = w.toNat :=
    Nat.ofDigitChars_ten_toDigits
  have hdigit : ∀ c ∈ Nat.toDigits 10 w.toNat, c.isDigit = true :=
    fun c hc => Nat.isDigit_of_mem_toDigits (by omega) (by omega) hc
  cases h with
  | number =>
    have hword := wellFormed_word w
    rw [amount_iff_gives hword]
    have hgives := Gives.literal (Nat.toDigits 10 w.toNat)
    rwa [hvalue] at hgives
  | @digits before zeros after hbefore hzeros hafter =>
    refine .text ⟨before, [], zeros ++ Nat.toDigits 10 w.toNat, after, ?_, hbefore, hafter,
      .inl rfl, ?_, ?_, ?_⟩
    · rw [String.toList_ofList]
      rfl
    · exact List.append_ne_nil_of_right_ne_nil zeros Nat.toDigits_ne_nil
    · intro c hc
      rcases List.mem_append.mp hc with hc | hc
      · rw [hzeros c hc]
        rfl
      · exact hdigit c hc
    · rw [ofDigitChars_zeros hzeros, hvalue]

theorem ItemsWellFormed.of_mem {items : List Json} (h : ItemsWellFormed items) (hv : v ∈ items) :
    v.WellFormed := by
  induction items with
  | nil => cases hv
  | cons w rest ih =>
    rcases List.mem_cons.mp hv with rfl | hv
    · exact h.1
    · exact ih h.2 hv

theorem MembersWellFormed.of_mem {members : List (StringLiteral × Json)}
    (h : MembersWellFormed members) {key : StringLiteral} (hv : (key, v) ∈ members) :
    v.WellFormed := by
  induction members with
  | nil => cases hv
  | cons m rest ih =>
    rcases List.mem_cons.mp hv with rfl | hv
    · exact h.1
    · exact ih h.2 hv

/-- The fields of a well-formed record are well formed. -/
theorem HasFields.wellFormed {names : List String} {record : Json} {fields : List (Option Json)}
    (h : HasFields names record fields) (hrecord : record.WellFormed) (hv : some v ∈ fields) :
    v.WellFormed := by
  cases h with
  | object members _ hkeys hfields =>
    have hmem : [v] ∈ names.map (valuesOf members) := by
      rw [hfields]
      exact List.mem_map_of_mem hv
    obtain ⟨name, -, hvalues⟩ := List.mem_map.mp hmem
    have hvalue : v ∈ valuesOf members name := by simp [hvalues]
    rw [valuesOf, List.mem_map] at hvalue
    obtain ⟨⟨key, w⟩, hmember, rfl⟩ := hvalue
    exact MembersWellFormed.of_mem hrecord (List.mem_of_mem_filter hmember)
  | array items hlength =>
    rw [List.mem_append, List.mem_map] at hv
    rcases hv with ⟨w, hw, ⟨⟩⟩ | hnone
    · exact ItemsWellFormed.of_mem hrecord hw
    · cases List.eq_of_mem_replicate hnone

end Json

/-- What an envelope carries is read as it is read by itself. -/
theorem Envelope.map_data_of_carries {α : Type} {decode : Json → Option α} {v data : Json}
    (h : Carries v data) : (ofJson? decode v).map Envelope.data = decode data := by
  have hunique {other : Json} (hother : Carries v other) : other = data := by
    obtain ⟨_, _, hfields, -⟩ := h
    obtain ⟨_, _, hothers, -⟩ := hother
    have hsame := hothers.unique (by decide) hfields
    simp only [List.cons.injEq, Option.some.injEq] at hsame
    exact hsame.2.1
  ext a
  rw [Option.map_eq_some_iff, ofJson?_iff]
  constructor
  · rintro ⟨other, hother, hread⟩
    rwa [← hunique hother]
  · exact fun hread => ⟨data, h, hread⟩

namespace Wallet

open Json (HasFields IsText)

variable {record : Json} {balance unit : Option Json} {msats : ℕ}

/-- A record is read as a wallet by what it holds in the two places. -/
theorem ofJson?_iff_of_hasFields (hrecord : record.WellFormed)
    (hfields : HasFields ["balance", "unit"] record [balance, unit]) :
    (∃ wallet, ofJson? record = some wallet ∧ wallet.balance.toNat = msats) ↔
      (balance = none ∧ msats = 0 ∨ ∃ v, balance = some v ∧ v.Amount msats ∧ msats < 2 ^ 64) ∧
        ∀ u ∈ unit, u = .null ∨ ∃ t, u = Json.text t := by
  have hamount {v : Json} (hv : balance = some v) : v.Amount msats ↔ v.Gives msats :=
    Json.amount_iff_gives (hfields.wellFormed hrecord (by simp [hv]))
  rw [ofJson?_iff]
  constructor
  · rintro ⟨_, _, hother, htold, hunit⟩
    cases hfields.unique (by decide) hother
    refine ⟨?_, hunit⟩
    cases htold with
    | absent => exact .inl ⟨rfl, rfl⟩
    | given hgives hfits => exact .inr ⟨_, rfl, (hamount rfl).mpr hgives, hfits⟩
  · rintro ⟨hbalance, hunit⟩
    refine ⟨balance, unit, hfields, ?_, hunit⟩
    rcases hbalance with ⟨rfl, rfl⟩ | ⟨v, rfl, hv, hfits⟩
    · exact .absent
    · exact .given ((hamount rfl).mp hv) hfits

/-- A balance is read in either way, or not at all. Of a wallet in JSON, with the two fields in any
places and with others beside them, the balance is read as a number of millisatoshis exactly if it is
that amount, as a literal or as a text, and fits 64 bits, or is nought because there is none; a value
that is no such amount spoils the wallet whatever else is in it. A word comes back from all the ways
to write it, and nothing of this changes inside an envelope. -/
theorem balance_as_number_or_text {text : String} {record : Json} {balance unit : Option Json}
    (htext : IsText text record)
    (hfields : HasFields ["balance", "unit"] record [balance, unit]) :
    let decoded := (Json.parse? text).bind ofJson?
    let unitTold := ∀ u ∈ unit, u = .null ∨ ∃ t, u = Json.text t
    (∀ msats, (∃ wallet, decoded = some wallet ∧ wallet.balance.toNat = msats) ↔
      (balance = none ∧ msats = 0 ∨ ∃ v, balance = some v ∧ v.Amount msats ∧ msats < 2 ^ 64) ∧
        unitTold) ∧
    (∀ v, balance = some v → (∀ msats < 2 ^ 64, ¬v.Amount msats) → decoded = none) ∧
    (unitTold → ∀ n v, Json.Writes n v → balance = some v →
      ∃ wallet, decoded = some wallet ∧ wallet.balance = n) ∧
    ∀ envelope v, IsText envelope v → Envelope.Carries v record →
      ((Json.parse? envelope).bind (Envelope.ofJson? ofJson?)).map Envelope.data = decoded := by
  intro decoded unitTold
  have hparse : Json.parse? text = some record := Json.parse?_eq_some_iff.mpr htext
  have hdecoded : decoded = ofJson? record := congrArg (Option.bind · ofJson?) hparse
  have hwellFormed : record.WellFormed := Json.wellFormed_of_parse? hparse
  have hread (msats : ℕ) : (∃ wallet, ofJson? record = some wallet ∧
      wallet.balance.toNat = msats) ↔ _ := ofJson?_iff_of_hasFields hwellFormed hfields
  rw [hdecoded]
  refine ⟨hread, fun v hv hnone => ?_, fun hunit n v hwrites hv => ?_, fun envelope v hv h => ?_⟩
  · cases hwallet : ofJson? record with
    | none => rfl
    | some wallet =>
      obtain ⟨hbalance, -⟩ := (hread wallet.balance.toNat).mp ⟨wallet, hwallet, rfl⟩
      rcases hbalance with ⟨habsent, -⟩ | ⟨w, hw, hamount, hfits⟩
      · rw [habsent] at hv
        cases hv
      · cases hv.symm.trans hw
        exact absurd hamount (hnone _ hfits)
  · obtain ⟨wallet, hwallet, hsame⟩ :=
      (hread n.toNat).mpr ⟨.inr ⟨v, hv, hwrites.amount, n.toNat_lt⟩, hunit⟩
    exact ⟨wallet, hwallet, UInt64.toNat_inj.mp hsame⟩
  · rw [Json.parse?_eq_some_iff.mpr hv]
    exact Envelope.map_data_of_carries h

/-- Seven as a text with zeros in front and blanks around, after members of other names. -/
theorem balance_as_padded_text :
    let text := "\x7b\"owner\": [1.5], \"unit\": \"msats\", \"balance\": \"\\t00\\u0037\\u2003\"\x7d"
    let padded := Json.text "\t007\u2003"
    let record : Json := .object [(some "owner", .array [.number ⟨false, ['1'], some ['5'], none⟩]),
      (some "unit", .text "msats"), (some "balance", padded)]
    IsText text record ∧ HasFields ["balance", "unit"] record [some padded, some (.text "msats")] ∧
      ∃ wallet, (Json.parse? text).bind ofJson? = some wallet ∧ wallet.balance = 7 := by
  intro text padded record
  have hdigit {c : Char} (hc : c.isDigit = true) : NumberLiteral.IsDigits [c] :=
    ⟨List.cons_ne_nil c [], List.forall_mem_singleton.mpr hc⟩
  have hnumber : NumberLiteral.WellFormed ⟨false, ['1'], some ['5'], none⟩ := by
    refine ⟨hdigit rfl, by simp, ?_, by simp⟩
    rintro _ ⟨⟩
    exact hdigit rfl
  have htext : IsText text record :=
    Json.isText_of_write_eq ⟨⟨hnumber, trivial⟩, trivial, trivial, trivial⟩ (by decide +kernel)
  have hfields : HasFields ["balance", "unit"] record [some padded, some (.text "msats")] :=
    .object _ _ (by simp) rfl
  have hwrites : Json.Writes 7 padded := by
    have hzeros : ∀ c ∈ ['0', '0'], c = '0' := by simp
    exact .digits (List.forall_mem_singleton.mpr rfl) hzeros (List.forall_mem_singleton.mpr rfl)
  have hunit : ∀ u ∈ some (Json.text "msats"), u = .null ∨ ∃ t, u = Json.text t := by
    rintro _ ⟨⟩
    exact .inr ⟨_, rfl⟩
  exact ⟨htext, hfields, (balance_as_number_or_text htext hfields).2.2.1 hunit 7 padded hwrites rfl⟩

end Wallet

end LightningDeposit
