import LightningDeposit.Json.Decode
import LightningDeposit.Proofs.Text.Strip
import Mathlib.Data.Nat.Notation

/-!
Numbers that come as literals or as texts. A numeral is told by the parts of its text, without
trimming it and without reading it, and the numbers that are read out of values are just those told
here which fit 64 bits.
-/

namespace LightningDeposit

namespace Text

/-- The text is a numeral of that number: at least one digit, with leading zeros or without, a plus
sign in front or none, and white space around it or none. -/
def Numeral (s : String) (n : ℕ) : Prop :=
  ∃ before sign digits after, s.toList = before ++ (sign ++ digits) ++ after ∧
    (∀ c ∈ before, isBlank c = true) ∧ (∀ c ∈ after, isBlank c = true) ∧
    (sign = [] ∨ sign = ['+']) ∧ digits ≠ [] ∧ (∀ c ∈ digits, c.isDigit = true) ∧
    Nat.ofDigitChars 10 digits 0 = n

theorem isBlank_of_isDigit {c : Char} (h : c.isDigit = true) : isBlank c = false := by
  simp only [Char.isDigit, Bool.and_eq_true, decide_eq_true_eq, ge_iff_le, UInt32.le_iff_toNat_le]
    at h
  have hlow : 48 ≤ c.toNat := h.1
  have hhigh : c.toNat ≤ 57 := h.2
  simp only [isBlank, Bool.or_eq_false_iff, Bool.and_eq_false_iff, decide_eq_false_iff_not,
    beq_eq_false_iff_ne]
  omega

theorem readNat?_eq_some_iff {s : List Char} {n : ℕ} : readNat? s = some n ↔
    s ≠ [] ∧ (∀ c ∈ s, c.isDigit = true) ∧ Nat.ofDigitChars 10 s 0 = n := by
  rw [readNat?, Option.ite_none_right_eq_some, List.all_eq_true, Option.some.injEq, and_assoc]

theorem wordOfNat?_eq_some_iff {n : ℕ} {w : UInt64} : wordOfNat? n = some w ↔ n = w.toNat := by
  rw [wordOfNat?, Option.ite_none_right_eq_some, Option.some.injEq]
  constructor
  · rintro ⟨hfits, rfl⟩
    exact (UInt64.toNat_ofNat_of_lt hfits).symm
  · rintro rfl
    exact ⟨w.toNat_lt_size, UInt64.ofNat_toNat⟩

/-- A word is read from digits, after a plus sign or without one. -/
theorem readWord?_eq_some_iff {s : List Char} {w : UInt64} : readWord? s = some w ↔
    ∃ sign digits, s = sign ++ digits ∧ (sign = [] ∨ sign = ['+']) ∧ digits ≠ [] ∧
      (∀ c ∈ digits, c.isDigit = true) ∧ Nat.ofDigitChars 10 digits 0 = w.toNat := by
  have hread (digits : List Char) : (readNat? digits).bind wordOfNat? = some w ↔
      digits ≠ [] ∧ (∀ c ∈ digits, c.isDigit = true) ∧
        Nat.ofDigitChars 10 digits 0 = w.toNat := by
    simp only [Option.bind_eq_some_iff, readNat?_eq_some_iff, wordOfNat?_eq_some_iff]
    constructor
    · rintro ⟨n, ⟨hne, hdigits, hvalue⟩, hword⟩
      exact ⟨hne, hdigits, hvalue.trans hword⟩
    · rintro ⟨hne, hdigits, hvalue⟩
      exact ⟨_, ⟨hne, hdigits, rfl⟩, hvalue⟩
  constructor
  · intro h
    unfold readWord? at h
    split at h
    next digits => exact ⟨['+'], digits, rfl, .inr rfl, (hread digits).mp h⟩
    next => exact ⟨[], s, rfl, .inl rfl, (hread s).mp h⟩
  · rintro ⟨sign, digits, rfl, rfl | rfl, hdigits⟩
    · cases digits with
      | nil => exact absurd rfl hdigits.1
      | cons c rest =>
        have hplus : c ≠ '+' := by
          rintro rfl
          exact absurd (hdigits.2.1 '+' List.mem_cons_self) (by decide)
        rw [List.nil_append, readWord?]
        · exact (hread (c :: rest)).mpr hdigits
        · rintro others ⟨⟩
          exact hplus rfl
    · exact (hread digits).mpr hdigits

/-- Trimming and reading a text finds the word that it is a numeral of. -/
theorem readWord?_trimChars_iff {s : String} {w : UInt64} :
    readWord? (trimChars s.toList) = some w ↔ Numeral s w.toNat := by
  rw [readWord?_eq_some_iff]
  constructor
  · rintro ⟨sign, digits, htrim, hrest⟩
    obtain ⟨before, after, hparts, hbefore, hafter⟩ := strip_parts isBlank s.toList
    rw [show strip isBlank s.toList = sign ++ digits from htrim] at hparts
    exact ⟨before, sign, digits, after, hparts, hbefore, hafter, hrest⟩
  · rintro ⟨before, sign, digits, after, hparts, hbefore, hafter, hsign, hne, hdigits, hvalue⟩
    have hmiddle : ∀ c ∈ sign ++ digits, isBlank c = false := by
      intro c hc
      rcases List.mem_append.mp hc with hc | hc
      · rcases hsign with rfl | rfl
        · cases hc
        · rw [List.mem_singleton.mp hc]
          rfl
      · exact isBlank_of_isDigit (hdigits c hc)
    refine ⟨sign, digits, ?_, hsign, hne, hdigits, hvalue⟩
    rw [trimChars, hparts]
    exact strip_append hbefore hafter hmiddle

end Text

namespace Json

/-- The value gives that number: as a literal without sign, point or exponent, or as a text. -/
inductive Gives : Json → ℕ → Prop
  | literal (digits : List Char) :
    Gives (.number ⟨false, digits, none, none⟩) (Nat.ofDigitChars 10 digits 0)
  | text {s : String} {n : ℕ} (h : Text.Numeral s n) : Gives (.string (some s)) n

theorem numberOfLiteral?_eq_natural_iff {literal : NumberLiteral} {w : UInt64} :
    numberOfLiteral? literal = some (.natural w) ↔
      ∃ digits, literal = ⟨false, digits, none, none⟩ ∧
        Nat.ofDigitChars 10 digits 0 = w.toNat := by
  obtain ⟨negative, digits, places, exponent⟩ := literal
  have hdouble : (doubleOfLiteral? ⟨negative, digits, places, exponent⟩).map Number.double ≠
      some (.natural w) := by
    cases doubleOfLiteral? ⟨negative, digits, places, exponent⟩ <;> simp
  constructor
  · intro h
    simp only [numberOfLiteral?] at h
    split_ifs at h with hparts hnegative hrange hfits
    · exact absurd h hdouble
    · cases h
    · exact absurd h hdouble
    · simp only [Bool.or_eq_true, not_or, Option.not_isSome_iff_eq_none] at hparts
      obtain ⟨rfl, rfl⟩ := hparts
      obtain rfl : negative = false := Bool.eq_false_iff.mpr hnegative
      cases h
      exact ⟨digits, rfl, (UInt64.toNat_ofNat_of_lt hfits).symm⟩
    · exact absurd h hdouble
  · rintro ⟨_, ⟨⟩, hvalue⟩
    simp [numberOfLiteral?, hvalue, w.toNat_lt_size]

/-- A word is read out of the values that give a number which fits it. -/
theorem wordOrText?_eq_some_iff {v : Json} {w : UInt64} :
    v.wordOrText? = some w ↔ v.Gives w.toNat := by
  cases v with
  | number literal =>
    have hword : (number literal).wordOrText? = some w ↔
        numberOfLiteral? literal = some (.natural w) := by
      simp only [wordOrText?, word?]
      split
      next n hn => simp [hn]
      next hother => exact iff_of_false nofun (hother w)
    rw [hword, numberOfLiteral?_eq_natural_iff]
    constructor
    · rintro ⟨digits, rfl, hvalue⟩
      rw [← hvalue]
      exact .literal digits
    · intro h
      generalize w.toNat = n at h ⊢
      cases h with
      | literal digits => exact ⟨digits, rfl, rfl⟩
  | string content =>
    constructor
    · intro h
      obtain ⟨s, rfl, hread⟩ := Option.bind_eq_some_iff.mp h
      exact .text (Text.readWord?_trimChars_iff.mp hread)
    · intro h
      cases h with
      | text hs => exact Text.readWord?_trimChars_iff.mpr hs
  | null => exact iff_of_false nofun nofun
  | bool b => exact iff_of_false nofun nofun
  | array items => exact iff_of_false nofun nofun
  | object members => exact iff_of_false nofun nofun

end Json

end LightningDeposit
