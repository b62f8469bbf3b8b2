import LightningDeposit.Currency
import LightningDeposit.Proofs.Json.Grammar
import LightningDeposit.Proofs.Json.Record
import LightningDeposit.Proofs.Text.Case
import LightningDeposit.Proofs.Text.Strip

/-!
The words for currency units. A person's text is told to be a unit by six words, whatever the case
of its letters and with any white space around it, and no letter of another script is taken for one
of theirs. JSON has four of the words, in one case, and there they are of the same units.
-/

namespace LightningDeposit.CurrencyUnit

open Json (IsText)

/-- The words for a unit, its name first. -/
def words : CurrencyUnit → List String
  | .sat => ["sat", "sats"]
  | .msat => ["msat", "msats"]
  | .usd => ["usd"]
  | .eur => ["eur"]

/-- Without the white space at its ends the text is one of the words for the unit, but for the case
of letters. -/
def Means (s : String) (u : CurrencyUnit) : Prop :=
  ∃ word ∈ u.words, ∃ t, Text.Trims s t ∧ Text.AlikeButForCase t word

section Words

variable {s word : String} {u : CurrencyUnit}

theorem name_mem_words (u : CurrencyUnit) : u.name ∈ u.words := by
  cases u <;> decide

/-- The words are in small letters of ASCII, and none of them has a k. -/
theorem forall_mem_words (h : word ∈ u.words) : ∀ c ∈ word.toList,
    (c.isAscii = true ∧ c ≠ 'k') ∧ c.toLower = c ∧ Text.isBlank c = false := by
  have hwords : u.words.all (fun word => word.toList.all fun c =>
      decide ((c.isAscii = true ∧ c ≠ 'k') ∧ c.toLower = c ∧ Text.isBlank c = false)) = true := by
    cases u <;> decide
  intro c hc
  have hword := List.all_eq_true.mp hwords word h
  exact of_decide_eq_true (List.all_eq_true.mp hword c hc)

theorem ofName?_eq_some_iff : ofName? s = some u ↔ s = u.name := by
  constructor
  · intro h
    unfold ofName? at h
    split_ifs at h with hsat hmsat husd heur <;> cases h <;> assumption
  · rintro rfl
    exact ofName?_name u

theorem parse?_eq_some_iff :
    parse? s = some u ↔ ∃ word ∈ u.words, Text.lower (Text.trim s).toList = word.toList := by
  have htrim : (Text.trim s).toList = Text.trimChars s.toList := String.toList_ofList
  have hword (word : String) : Text.lower (Text.trimChars s.toList) = word.toList ↔
      String.ofList (Text.lower (Text.trimChars s.toList)) = word := by
    rw [← String.toList_inj, String.toList_ofList]
  simp only [htrim, hword, parse?]
  generalize String.ofList (Text.lower (Text.trimChars s.toList)) = word
  split_ifs with hsats hmsats
  · subst hsats
    cases u <;> decide
  · subst hmsats
    cases u <;> decide
  · rw [ofName?_eq_some_iff]
    cases u <;> simp [words, name, hsats, hmsats]

/-- The lower case of a text is a word exactly if the two are alike but for case. -/
theorem lower_eq_word_iff {t : String} (h : word ∈ u.words) :
    Text.lower t.toList = word.toList ↔ Text.AlikeButForCase t word := by
  have hword := forall_mem_words h
  have hsmall : word.toList.map Char.toLower = word.toList :=
    (List.map_congr_left fun c hc => (hword c hc).2.1).trans (List.map_id' _)
  rw [Text.lower_eq_iff fun c hc => (hword c hc).1, Text.AlikeButForCase, hsmall]

theorem parse?_iff_means : parse? s = some u ↔ Means s u := by
  rw [parse?_eq_some_iff]
  refine exists_congr fun word => and_congr_right fun hword => ?_
  rw [lower_eq_word_iff hword]
  constructor
  · exact fun h => ⟨_, Text.trim_eq_iff.mp rfl, h⟩
  · rintro ⟨t, ht, h⟩
    rwa [Text.trim_eq_iff.mpr ht]

theorem parse_eq_ok_iff : parse s = .ok u ↔ Means s u := by
  rw [← parse?_iff_means, parse]
  cases parse? s <;> simp

theorem parse_eq_error_iff {e : String} :
    parse s = .error e ↔ (∀ u, ¬Means s u) ∧ e = unknownUnitMessage s := by
  simp only [← parse?_iff_means, parse]
  cases parse? s <;> simp [eq_comm]

/-- The long s is an s in capitals only. -/
example : parse "\u017fat" = .error "Unknown currency unit: \u017fat" := by rfl

/-- JSON has the names alone. -/
theorem ofJson?_eq_some_iff {v : Json} : ofJson? v = some u ↔ Json.Names v u.name := by
  rw [ofJson?, Option.bind_eq_some_iff]
  simp only [Json.name?_eq_some_iff, ofName?_eq_some_iff]
  constructor
  · rintro ⟨_, h, rfl⟩
    exact h
  · exact fun h => ⟨_, h, rfl⟩

/-- A word in any case and between any white space means its unit. -/
theorem means_padded {before t after : String} (hword : word ∈ u.words)
    (hbefore : ∀ c ∈ before.toList, Text.isBlank c = true)
    (hafter : ∀ c ∈ after.toList, Text.isBlank c = true) (ht : Text.AlikeButForCase t word) :
    Means (before ++ t ++ after) u := by
  have hblank : ∀ c ∈ t.toList, Text.isBlank c = false :=
    ht.isBlank_eq_false fun c hc => (forall_mem_words hword c hc).2.2
  have htrim : Text.trim (before ++ t ++ after) = t := by
    rw [Text.trim, Text.trimChars, String.toList_append, String.toList_append,
      Text.strip_append hbefore hafter hblank, String.ofList_toList]
  exact ⟨word, hword, t, Text.trim_eq_iff.mp htrim, ht⟩

/-- The name of a unit means it. -/
theorem means_name (u : CurrencyUnit) : Means u.name u := by
  have h : Means ("" ++ u.name ++ "") u :=
    means_padded (name_mem_words u) (by simp) (by simp) rfl
  simpa using h

end Words

/-- A text is a unit exactly if it is one of the unit's words, in any case and with any white space
around it; of any other text it is said, as it was given, that it is none. Only letters of ASCII
come to the words in lower case. JSON takes the names of units, and what it takes is the same unit
as it is for a person; and the name that a unit is shown by, in any case and with any white space
around it, is that unit again. -/
theorem units_told_exactly :
    (∀ (s : String) (u : CurrencyUnit), parse s = .ok u ↔ Means s u) ∧
    (∀ s e : String, parse s = .error e ↔
      (∀ u, ¬Means s u) ∧ e = "Unknown currency unit: " ++ s) ∧
    (∀ u : CurrencyUnit, ∀ word ∈ u.words, ∀ s, Text.lower s = word.toList →
      ∀ c ∈ s, c.isAscii = true) ∧
    (∀ text v word, IsText text v → Json.Names v word → ∀ u : CurrencyUnit,
      ((Json.parse? text).bind ofJson? = some u ↔ word = u.name) ∧
        ((Json.parse? text).bind ofJson? = some u → parse word = .ok u)) ∧
    ∀ (u : CurrencyUnit) (before shown after : String),
      (∀ c ∈ before.toList, Text.isBlank c = true) →
      (∀ c ∈ after.toList, Text.isBlank c = true) → Text.AlikeButForCase shown u.name →
        parse (before ++ shown ++ after) = .ok u := by
  refine ⟨fun s u => parse_eq_ok_iff, fun s e => parse_eq_error_iff, ?_, ?_, ?_⟩
  · intro u word hword s hs
    apply Text.isAscii_of_lower
    intro d hd
    exact (forall_mem_words hword d (hs ▸ hd)).1
  · intro text v word htext hnames u
    have hread : (Json.parse? text).bind ofJson? = some u ↔ word = u.name := by
      rw [Json.parse?_eq_some_iff.mpr htext, Option.bind_some, ofJson?_eq_some_iff]
      exact ⟨hnames.unique, fun h => h ▸ hnames⟩
    refine ⟨hread, fun h => ?_⟩
    obtain rfl := hread.mp h
    exact parse_eq_ok_iff.mpr (means_name u)
  · intro u before shown after hbefore hafter hshown
    exact parse_eq_ok_iff.mpr (means_padded (name_mem_words u) hbefore hafter hshown)

/-- Capitals among small letters, a letter escaped in JSON, and white space of several bytes. -/
theorem units_told_exactly_in_odd_spelling :
    let text := " \"\\u0065ur\"\n"
    (Text.lower "mSaTs".toList = "msats".toList ∧ ∀ c ∈ "mSaTs".toList, c.isAscii = true) ∧
    ((Json.parse? text).bind ofJson? = some .eur ∧ parse "eur" = .ok .eur) ∧
    parse ("\u2003\t" ++ "uSD" ++ "\u00a0\n") = .ok .usd := by
  intro text
  obtain ⟨-, -, hascii, hjson, hpadded⟩ := units_told_exactly
  have hlower : Text.lower "mSaTs".toList = "msats".toList := by decide
  have hname : (Json.parse? text).bind Json.name? = some "eur" := by decide
  obtain ⟨v, hv, hword⟩ := Option.bind_eq_some_iff.mp hname
  obtain ⟨hread, hsame⟩ := hjson text v "eur" (Json.parse?_eq_some_iff.mp hv)
    (Json.name?_eq_some_iff.mp hword) .eur
  have heur : (Json.parse? text).bind ofJson? = some .eur := hread.mpr rfl
  have hbefore : "\u2003\t".toList.all Text.isBlank = true := by decide
  have hafter : "\u00a0\n".toList.all Text.isBlank = true := by decide
  refine ⟨⟨hlower, hascii .msat "msats" (by decide) _ hlower⟩, ⟨heur, hsame heur⟩, ?_⟩
  exact hpadded .usd _ _ _ (List.all_eq_true.mp hbefore) (List.all_eq_true.mp hafter)
    (by decide)

end LightningDeposit.CurrencyUnit
