import LightningDeposit.Url.Parser
import Mathlib.Data.List.DropRight
import Mathlib.Data.List.TakeWhile

/-!
What becomes of a path that begins with given segments when it is joined to an address: what is left
of its text, how that is split, and where the walk over the parts ends.
-/

namespace LightningDeposit.Url

variable {p : Char → Bool} {s front : List Char} {c : Char}

theorem splitOn_ne_nil (p : Char → Bool) (s : List Char) : splitOn p s ≠ [] := by
  cases s with
  | nil => exact List.cons_ne_nil _ _
  | cons c rest =>
    simp only [splitOn]
    split
    next => exact List.cons_ne_nil _ _
    next => split <;> exact List.cons_ne_nil _ _

theorem splitOn_cons_of_not (h : p c = false) (rest : List Char) :
    ∃ part parts, splitOn p rest = part :: parts ∧ splitOn p (c :: rest) = (c :: part) :: parts := by
  cases hrest : splitOn p rest with
  | nil => exact absurd hrest (splitOn_ne_nil p rest)
  | cons part parts => exact ⟨part, parts, rfl, by simp [splitOn, h, hrest]⟩

theorem splitOn_of_none (h : ∀ c ∈ s, p c = false) : splitOn p s = [s] := by
  induction s with
  | nil => rfl
  | cons c rest ih =>
    obtain ⟨part, parts, hrest, hsplit⟩ := splitOn_cons_of_not (h c List.mem_cons_self) rest
    rw [ih fun d hd => h d (List.mem_cons_of_mem _ hd)] at hrest
    cases hrest
    exact hsplit

theorem splitOn_append (h : ∀ c ∈ front, p c = false) (hc : p c = true) (rest : List Char) :
    splitOn p (front ++ c :: rest) = front :: splitOn p rest := by
  induction front with
  | nil => simp [splitOn, hc]
  | cons d front ih =>
    obtain ⟨part, parts, hrest, hsplit⟩ :=
      splitOn_cons_of_not (h d List.mem_cons_self) (front ++ c :: rest)
    rw [ih fun e he => h e (List.mem_cons_of_mem _ he)] at hrest
    cases hrest
    exact hsplit

/-- The last part is the end of the text after the last separator, all of it if there is none. -/
theorem splitOn_last (p : Char → Bool) (s : List Char) :
    ∃ parts last, splitOn p s = parts ++ [last] ∧ last <:+ s ∧ (∀ c ∈ last, p c = false) ∧
      (parts = [] → last = s) := by
  induction s with
  | nil => exact ⟨[], [], rfl, List.suffix_refl _, by simp, fun _ => rfl⟩
  | cons c rest ih =>
    obtain ⟨parts, last, hrest, hsuffix, hlast, hwhole⟩ := ih
    have hlater := hsuffix.trans (List.suffix_cons c rest)
    cases hc : p c with
    | true => exact ⟨[] :: parts, last, by simp [splitOn, hc, hrest], hlater, hlast, by simp⟩
    | false =>
      cases parts with
      | nil =>
        have hnone : ∀ d ∈ c :: rest, p d = false := by
          rw [← hwhole rfl]
          exact List.forall_mem_cons.mpr ⟨hc, hlast⟩
        exact ⟨[], c :: rest, splitOn_of_none hnone, List.suffix_refl _, hnone, fun _ => rfl⟩
      | cons part parts =>
        exact ⟨(c :: part) :: parts, last, by simp [splitOn, hc, hrest], hlater, hlast, by simp⟩

/-- A walk ends with the last part, or with an empty segment in place of dots. -/
theorem walk_last (start parts : List String) (last : String) :
    ∃ segments, walk start (parts ++ [last]) = segments ++ [last] ∨
      walk start (parts ++ [last]) = segments ++ [""] := by
  induction parts generalizing start with
  | nil =>
    simp only [List.nil_append, walk]
    split
    next => exact ⟨_, .inr rfl⟩
    next =>
      split
      next => exact ⟨_, .inr rfl⟩
      next => exact ⟨_, .inl rfl⟩
  | cons part parts ih =>
    have hne : parts ++ [last] ≠ [] := by simp
    obtain ⟨next, rest, hrest⟩ := List.exists_cons_of_ne_nil hne
    rw [List.cons_append, hrest, walk]
    · rw [← hrest]
      split
      next => exact ih _
      next => split <;> exact ih _
    · exact List.cons_ne_nil _ _

theorem cutAt_fst (c : Char) (s : List Char) : (cutAt c s).1 = s.takeWhile (· != c) := by
  unfold cutAt
  split
  next hnone =>
    exact (List.takeWhile_eq_self_iff.mpr (List.dropWhile_eq_nil_iff.mp hnone)).symm
  next => rfl

theorem cutAt_snd_eq_none : (cutAt c s).2 = none ↔ c ∉ s := by
  have hmem : s.dropWhile (· != c) = [] ↔ c ∉ s := by
    rw [List.dropWhile_eq_nil_iff]
    simp only [bne_iff_ne]
    exact ⟨fun h hc => h c hc rfl, fun h d hd heq => h (heq ▸ hd)⟩
  rw [← hmem]
  unfold cutAt
  split
  next hnone => simp [hnone]
  next hsome => simp [hsome]

/-- Controls and spaces, which are cut off at both ends of a path. -/
def isOuter (c : Char) : Bool := decide (c.toNat ≤ 0x20)

/-- What is left of the end of a path. -/
def cleanEnd (s : List Char) : List Char :=
  withoutVanishing (s.rdropWhile isOuter)

theorem vanishes_of_not_isOuter (h : isOuter c = false) : vanishes c = false := by
  have hne (d : Char) (hd : isOuter d = true) : c ≠ d := by
    rintro rfl
    rw [h] at hd
    cases hd
  simp [vanishes, hne '\t' (by decide), hne '\n' (by decide), hne '\r' (by decide)]

theorem withoutVanishing_eq_self : withoutVanishing s = s ↔ ∀ c ∈ s, vanishes c = false := by
  simp [withoutVanishing, List.filter_eq_self]

/-- A beginning without controls and spaces stays as it is. -/
theorem clean_append {start : String} (hne : start ≠ "")
    (h : ∀ c ∈ start.toList, isOuter c = false) (tail : String) :
    clean (start ++ tail) = start.toList ++ cleanEnd tail.toList := by
  have hkeep (s : List Char) (hs : s.reverse ⊆ start.toList) (hcons : s ≠ []) (t : List Char) :
      (s ++ t).dropWhile isOuter = s ++ t := by
    obtain ⟨c, rest, rfl⟩ := List.exists_cons_of_ne_nil hcons
    have hc : isOuter c = false := h c (hs (by simp))
    rw [List.cons_append, List.dropWhile_cons_of_neg (by simp [hc])]
  have hstart : start.toList ≠ [] := by simpa using hne
  have hfront : ((start ++ tail).toList).dropWhile isOuter = start.toList ++ tail.toList := by
    rw [String.toList_append]
    exact hkeep _ (by simp) hstart _
  have hback : (start.toList ++ tail.toList).rdropWhile isOuter =
      start.toList ++ tail.toList.rdropWhile isOuter := by
    have hreverse := hkeep start.toList.reverse (by simp) (by simpa using hstart) []
    rw [List.append_nil] at hreverse
    simp only [List.rdropWhile, List.reverse_append, List.dropWhile_append, hreverse]
    split
    next hempty =>
      rw [List.isEmpty_iff] at hempty
      simp [hempty]
    next => simp
  have hclean : clean (start ++ tail) =
      withoutVanishing (((start ++ tail).toList.dropWhile isOuter).rdropWhile isOuter) := rfl
  have hvanish := withoutVanishing_eq_self.mpr fun c hc => vanishes_of_not_isOuter (h c hc)
  rw [hclean, hfront, hback, withoutVanishing, List.filter_append]
  exact congrArg (· ++ cleanEnd tail.toList) hvanish

end LightningDeposit.Url
