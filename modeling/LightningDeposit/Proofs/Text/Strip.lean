import LightningDeposit.Text.Blank
import Mathlib.Data.List.TakeWhile

/-!
Stripping both ends of a list of characters: what is left, what was there before, and when nothing
is left.
-/

namespace LightningDeposit.Text

theorem strip_eq_nil_iff {p : Char → Bool} {s : List Char} : strip p s = [] ↔ s.all p = true := by
  constructor
  · intro h
    rw [strip, List.reverse_eq_nil_iff, List.dropWhile_eq_nil_iff] at h
    have hdrop : s.dropWhile p = [] := by
      by_contra hne
      have hhead := List.head_dropWhile_not p hne
      rw [h _ (List.mem_reverse.mpr (List.head_mem hne))] at hhead
      cases hhead
    rw [List.dropWhile_eq_nil_iff] at hdrop
    exact List.all_eq_true.mpr hdrop
  · intro h
    rw [strip, List.dropWhile_eq_nil_iff.mpr (List.all_eq_true.mp h)]
    rfl

/-- What is stripped stood at the ends. -/
theorem strip_parts (p : Char → Bool) (s : List Char) :
    ∃ before after, s = before ++ strip p s ++ after ∧ (∀ c ∈ before, p c = true) ∧
      ∀ c ∈ after, p c = true := by
  have hfront := List.takeWhile_append_dropWhile (p := p) (l := s)
  have hback := List.takeWhile_append_dropWhile (p := p) (l := (s.dropWhile p).reverse)
  refine ⟨s.takeWhile p, ((s.dropWhile p).reverse.takeWhile p).reverse, ?_, ?_, ?_⟩
  · rw [strip, List.append_assoc, ← List.reverse_append, hback, List.reverse_reverse, hfront]
  · exact fun c hc => List.mem_takeWhile_imp hc
  · exact fun c hc => List.mem_takeWhile_imp (List.mem_reverse.mp hc)

/-- Nothing more can be stripped from what is left. -/
theorem strip_ends (p : Char → Bool) (s : List Char) :
    (∀ c ∈ (strip p s).head?, p c = false) ∧ ∀ c ∈ (strip p s).getLast?, p c = false := by
  have hhead (s : List Char) : ∀ c ∈ (s.dropWhile p).head?, p c = false := by
    intro c hc
    have hnot := List.head?_dropWhile_not p s
    rwa [hc] at hnot
  constructor
  · intro c hc
    obtain ⟨kept, hkept⟩ : strip p s <+: s.dropWhile p := by
      rw [← List.reverse_suffix, strip, List.reverse_reverse]
      exact List.dropWhile_suffix p
    apply hhead s c
    rw [← hkept, List.head?_append, hc]
    rfl
  · intro c hc
    rw [strip, List.getLast?_reverse] at hc
    exact hhead _ c hc

section Stripping

variable {p : Char → Bool} {s before middle after : List Char}

theorem dropWhile_append_of_head (hbefore : ∀ c ∈ before, p c = true) (hne : middle ≠ [])
    (hmiddle : ∀ c ∈ middle.head?, p c = false) (after : List Char) :
    (before ++ (middle ++ after)).dropWhile p = middle ++ after := by
  rw [List.dropWhile_append_of_pos hbefore]
  cases middle with
  | nil => exact absurd rfl hne
  | cons c rest =>
    rw [List.cons_append, List.dropWhile_cons_of_neg]
    simp [hmiddle c rfl]

/-- Stripping leaves what stands between two ends that are stripped, if nothing of it can be. -/
theorem strip_eq_iff : strip p s = middle ↔
    (∃ before after, s = before ++ middle ++ after ∧ (∀ c ∈ before, p c = true) ∧
      ∀ c ∈ after, p c = true) ∧
    (∀ c ∈ middle.head?, p c = false) ∧ ∀ c ∈ middle.getLast?, p c = false := by
  constructor
  · rintro rfl
    exact ⟨strip_parts p s, strip_ends p s⟩
  · rintro ⟨⟨before, after, rfl, hbefore, hafter⟩, hhead, hlast⟩
    by_cases hne : middle = []
    · subst hne
      rw [strip_eq_nil_iff, List.all_eq_true]
      intro c hc
      rw [List.append_nil, List.mem_append] at hc
      exact hc.elim (hbefore c) (hafter c)
    · have hback : (after.reverse ++ (middle.reverse ++ [])).dropWhile p =
          middle.reverse ++ [] := by
        apply dropWhile_append_of_head
        · exact fun c hc => hafter c (List.mem_reverse.mp hc)
        · simpa using hne
        · simpa using hlast
      rw [List.append_nil] at hback
      rw [strip, List.append_assoc, dropWhile_append_of_head hbefore hne hhead,
        List.reverse_append, hback, List.reverse_reverse]

/-- What is not to be stripped is what stripping leaves between the ends. -/
theorem strip_append (hbefore : ∀ c ∈ before, p c = true) (hafter : ∀ c ∈ after, p c = true)
    (hmiddle : ∀ c ∈ middle, p c = false) : strip p (before ++ middle ++ after) = middle := by
  rw [strip_eq_iff]
  refine ⟨⟨before, after, rfl, hbefore, hafter⟩, ?_, ?_⟩
  · exact fun c hc => hmiddle c (List.mem_of_mem_head? hc)
  · exact fun c hc => hmiddle c (List.mem_of_mem_getLast? hc)

end Stripping

/-- The second text is the first without the white space at its ends. -/
def Trims (s t : String) : Prop :=
  (∃ before after, s.toList = before ++ t.toList ++ after ∧ (∀ c ∈ before, isBlank c = true) ∧
    ∀ c ∈ after, isBlank c = true) ∧
  (∀ c ∈ t.toList.head?, isBlank c = false) ∧ ∀ c ∈ t.toList.getLast?, isBlank c = false

theorem trim_eq_iff {s t : String} : trim s = t ↔ Trims s t := by
  rw [trim, trimChars, ← String.toList_inj, String.toList_ofList]
  exact strip_eq_iff

theorem trim_eq_empty_iff {s : String} : trim s = "" ↔ s.toList.all isBlank = true := by
  rw [trim, trimChars, ← strip_eq_nil_iff, ← String.toList_inj, String.toList_ofList]
  rfl

end LightningDeposit.Text
