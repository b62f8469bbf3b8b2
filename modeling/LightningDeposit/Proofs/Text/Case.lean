import LightningDeposit.Text.Blank
import LightningDeposit.Text.Case
import Mathlib.Data.List.TakeWhile
import Mathlib.Data.Nat.Notation

/-!
Lower case and ASCII. The letters of ASCII have their small letters in ASCII, and so has one letter
beyond it, the sign for kelvins. Any other character beyond ASCII comes to something that is not all
in ASCII, wherever in a text it stands. So a word in small letters of ASCII, without a k, is the
lower case of itself in any case and of nothing else.
-/

namespace LightningDeposit.Text

/-- The texts differ in nothing but the case of letters of ASCII. -/
def AlikeButForCase (s t : String) : Prop :=
  s.toList.map Char.toLower = t.toList.map Char.toLower

instance (s t : String) : Decidable (AlikeButForCase s t) :=
  inferInstanceAs (Decidable (s.toList.map Char.toLower = t.toList.map Char.toLower))

def kelvinSign : Char := Char.ofNat 0x212A

section Runs

def latinCapitals : CapitalRun := ⟨0x41, 0x5A, 1, 0x61⟩

def kelvinCapital : CapitalRun := ⟨0x212A, 0x212A, 1, 0x6B⟩

variable {m n : ℕ} {run : CapitalRun} {runs : List CapitalRun}

/-- What is found is the place of the number in a run, put among the small letters of the run. -/
theorem exists_run_of_smallIn? (h : smallIn? n runs = some m) :
    ∃ run ∈ runs, run.first ≤ n ∧ n ≤ run.last ∧ m = run.small + (n - run.first) := by
  induction runs with
  | nil => cases h
  | cons run rest ih =>
    unfold smallIn? at h
    split_ifs at h with hpast hin
    · obtain ⟨found, hfound, hspec⟩ := ih h
      exact ⟨found, List.mem_cons_of_mem _ hfound, hspec⟩
    · exact ⟨run, List.mem_cons_self, hin.1, by omega, (Option.some.inj h).symm⟩

set_option maxRecDepth 2000 in
/-- The small letters of a run are characters, and two runs have theirs in ASCII. -/
theorem capitalRuns_spec : ∀ run ∈ capitalRuns,
    (run.small + (run.last - run.first) < 0xD800 ∨
      0xDFFF < run.small ∧ run.small + (run.last - run.first) < 0x110000) ∧
    (run.small < 0x80 → run = latinCapitals ∨ run = kelvinCapital) := by
  decide

theorem isValidChar_of_run (h : run ∈ capitalRuns) (hn : n ≤ run.last - run.first) :
    (run.small + n).isValidChar := by
  have hrun := (capitalRuns_spec run h).1
  rw [Nat.isValidChar]
  omega

end Runs

section Characters

variable {c : Char}

/-- What holds of the first numbers holds of ASCII. -/
theorem forall_isAscii {p : Char → Prop} (h : ∀ n < 0x80, p (Char.ofNat n))
    (hc : c.isAscii = true) : p c := by
  have hlt : c.toNat < 0x80 := of_decide_eq_true hc
  simpa only [Char.ofNat_toNat] using h c.toNat hlt

theorem toLower_of_not_isAscii (h : c.isAscii = false) : c.toLower = c := by
  have hc : ¬c.toNat < 0x80 := of_decide_eq_false h
  have hnot : ¬(c.val ≥ 'A'.val ∧ c.val ≤ 'Z'.val) := by
    rintro ⟨-, hle⟩
    have hle : c.toNat ≤ 0x5A := hle
    omega
  exact dif_neg hnot

/-- In ASCII the small letters of Unicode are those of ASCII. -/
theorem small_of_isAscii (h : c.isAscii = true) : small c = c.toLower :=
  forall_isAscii (p := fun c => small c = c.toLower) (by decide) h

/-- What does not tell the cases of ASCII apart does not tell those of any character apart. -/
theorem apply_toLower {α : Type} (f : Char → α)
    (h : ∀ n < 0x80, f (Char.ofNat n).toLower = f (Char.ofNat n)) (c : Char) :
    f c.toLower = f c := by
  cases hc : c.isAscii with
  | false => rw [toLower_of_not_isAscii hc]
  | true => exact forall_isAscii (p := fun c => f c.toLower = f c) h hc

theorem isAscii_toLower (c : Char) : c.toLower.isAscii = c.isAscii :=
  apply_toLower Char.isAscii (by decide) c

theorem isBlank_toLower (c : Char) : isBlank c.toLower = isBlank c :=
  apply_toLower isBlank (by decide) c

/-- Beyond ASCII one character has its small letter in it. -/
theorem eq_kelvinSign_of_isAscii_small (hc : c.isAscii = false) (h : (small c).isAscii = true) :
    c = kelvinSign := by
  have hlow : ¬c.toNat < 0x80 := of_decide_eq_false hc
  cases hfound : smallIn? c.toNat capitalRuns with
  | none =>
    have hsame : small c = c := by rw [small, hfound]; rfl
    rw [hsame, hc] at h
    cases h
  | some n =>
    have hsmall : small c = Char.ofNat n := by rw [small, hfound]; rfl
    obtain ⟨run, hrun, hfirst, hlast, rfl⟩ := exists_run_of_smallIn? hfound
    have hvalid := isValidChar_of_run hrun (show c.toNat - run.first ≤ _ by omega)
    have hn : run.small + (c.toNat - run.first) < 0x80 := by
      rw [hsmall, Char.ofNat, dif_pos hvalid] at h
      exact of_decide_eq_true h
    obtain rfl | rfl := (capitalRuns_spec run hrun).2 (by omega)
    · -- The capitals of this run are in ASCII themselves.
      simp only [latinCapitals] at hlast
      omega
    · have hkelvin : c.toNat = 0x212A := by
        simp only [kelvinCapital] at hfirst hlast
        omega
      rw [← Char.ofNat_toNat c, hkelvin]
      rfl

theorem lowerChar_of_isAscii (h : c.isAscii = true) : lowerChar c = [c.toLower] := by
  rw [lowerChar, if_neg, small_of_isAscii h]
  rintro rfl
  exact absurd h (by decide)

/-- Characters of ASCII other than k are the lower case of a character of ASCII only. -/
theorem isAscii_of_lowerChar (h : ∀ d ∈ lowerChar c, d.isAscii = true ∧ d ≠ 'k') :
    c.isAscii = true := by
  unfold lowerChar at h
  split_ifs at h with hdotted
  · have hdot := h dotAbove (by simp)
    exact absurd hdot.1 (by decide)
  · obtain ⟨hsmall, hk⟩ := h (small c) (by simp)
    by_contra hc
    obtain rfl := eq_kelvinSign_of_isAscii_small (Bool.eq_false_iff.mpr hc) hsmall
    exact hk (by decide)

end Characters

section Texts

variable {before s word : List Char}

theorem lowerAfter_of_isAscii (h : ∀ c ∈ s, c.isAscii = true) :
    lowerAfter before s = s.map Char.toLower := by
  induction s generalizing before with
  | nil => rfl
  | cons c rest ih =>
    obtain ⟨hc, hrest⟩ := List.forall_mem_cons.mp h
    have hsigma : c ≠ capitalSigma := by
      rintro rfl
      exact absurd hc (by decide)
    simp [lowerAfter, hsigma, lowerChar_of_isAscii hc, ih hrest]

/-- What comes before a text can only make a difference to its sigmas, and neither small sigma is in
ASCII. -/
theorem isAscii_of_lowerAfter (h : ∀ d ∈ lowerAfter before s, d.isAscii = true ∧ d ≠ 'k') :
    ∀ c ∈ s, c.isAscii = true := by
  induction s generalizing before with
  | nil => nofun
  | cons c rest ih =>
    rw [lowerAfter, List.forall_mem_append] at h
    obtain ⟨hc, hrest⟩ := h
    refine List.forall_mem_cons.mpr ⟨?_, ih hrest⟩
    split_ifs at hc with hsigma
    · have hfinal := hc finalSigma (by simp)
      exact absurd hfinal.1 (by decide)
    · exact isAscii_of_lowerChar hc

/-- A text whose lower case is in ASCII and has no k is in ASCII itself. -/
theorem isAscii_of_lower (h : ∀ d ∈ lower s, d.isAscii = true ∧ d ≠ 'k') :
    ∀ c ∈ s, c.isAscii = true :=
  isAscii_of_lowerAfter h

/-- A word of ASCII without a k is the lower case of the texts that have it for their lower case in
ASCII. -/
theorem lower_eq_iff (h : ∀ d ∈ word, d.isAscii = true ∧ d ≠ 'k') :
    lower s = word ↔ s.map Char.toLower = word := by
  constructor
  · rintro rfl
    exact (lowerAfter_of_isAscii (isAscii_of_lower h)).symm
  · rintro rfl
    refine lowerAfter_of_isAscii fun c hc => ?_
    rw [← isAscii_toLower]
    exact (h _ (List.mem_map_of_mem hc)).1

/-- The sign for kelvins is why the word must not have a k. -/
example : lower [kelvinSign] = ['k'] := by decide

/-- White space has no case. -/
theorem AlikeButForCase.isBlank_eq_false {s t : String} (h : AlikeButForCase s t)
    (ht : ∀ d ∈ t.toList, isBlank d = false) : ∀ c ∈ s.toList, isBlank c = false := by
  intro c hc
  have hmem : c.toLower ∈ t.toList.map Char.toLower := by
    rw [← h]
    exact List.mem_map_of_mem hc
  obtain ⟨d, hd, hsame⟩ := List.mem_map.mp hmem
  rw [← isBlank_toLower, ← hsame, isBlank_toLower]
  exact ht d hd

end Texts

end LightningDeposit.Text
