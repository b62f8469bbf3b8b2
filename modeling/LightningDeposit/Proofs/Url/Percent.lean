import LightningDeposit.Url.Percent
import Mathlib.Data.List.Flatten

/-!
Escaping and the bytes that a text stands for. Escaping what a path cannot hold changes no byte;
what the bytes are is changed by the text's own escapes only, each of which stands for one byte where
it takes three.
-/

namespace LightningDeposit.Url

/-- The bytes of a text as it is. -/
def bytes (s : List Char) : List UInt8 := s.flatMap String.utf8EncodeChar

theorem data_toUTF8 (text : String) : text.toUTF8.data.toList = bytes text.toList := by
  have hencoded : (String.ofList text.toList).toByteArray = text.toList.utf8Encode :=
    String.toByteArray_ofList
  rw [String.ofList_toList] at hencoded
  rw [String.toUTF8_eq_toByteArray, hencoded, List.utf8Encode, List.data_toByteArray]
  rfl

theorem bytes_injective {s t : List Char} (h : bytes s = bytes t) : s = t := by
  apply String.ofList_injective
  rw [← String.toByteArray_inj, String.toByteArray_ofList, String.toByteArray_ofList]
  exact congrArg List.toByteArray h

/-- Two hexadecimal digits come first. -/
def StartsHex (s : List Char) : Prop :=
  ∃ a b rest, s = a :: b :: rest ∧ (hexDigit? a).isSome ∧ (hexDigit? b).isSome

/-- Somewhere a percent sign stands before two hexadecimal digits. -/
def HasEscape (s : List Char) : Prop :=
  ∃ before after, s = before ++ '%' :: after ∧ StartsHex after

variable {s rest : List Char} {c : Char}

theorem unescape_escaped {a b : Char} {high low : Nat} (ha : hexDigit? a = some high)
    (hb : hexDigit? b = some low) (rest : List Char) :
    unescape ('%' :: a :: b :: rest) = UInt8.ofNat (high * 16 + low) :: unescape rest := by
  rw [unescape, ha, hb]

/-- A character that begins no escape stands for its own bytes. -/
theorem unescape_cons (h : c = '%' → ¬StartsHex rest) :
    unescape (c :: rest) = String.utf8EncodeChar c ++ unescape rest := by
  by_cases hc : c = '%'
  · subst hc
    match rest, h with
    | [], _ => simp [unescape]
    | [a], _ => simp [unescape]
    | a :: b :: rest, h =>
      have hdigits : ∀ high low, hexDigit? a = some high → hexDigit? b = some low → False :=
        fun high low ha hb => h rfl ⟨a, b, rest, rfl, by simp [ha], by simp [hb]⟩
      rw [unescape]
      split
      next high low ha hb => exact (hdigits high low ha hb).elim
      next => rfl
  · rw [unescape]
    rintro a b tail rfl
    exact absurd rfl hc

theorem hasEscape_cons :
    HasEscape (c :: rest) ↔ (c = '%' ∧ StartsHex rest) ∨ HasEscape rest := by
  constructor
  · rintro ⟨before, after, heq, hhex⟩
    cases before with
    | nil =>
      cases heq
      exact .inl ⟨rfl, hhex⟩
    | cons d before =>
      cases heq
      exact .inr ⟨before, after, rfl, hhex⟩
  · rintro (⟨rfl, hhex⟩ | ⟨before, after, rfl, hhex⟩)
    · exact ⟨[], rest, rfl, hhex⟩
    · exact ⟨c :: before, after, rfl, hhex⟩

theorem unescape_eq_bytes (h : ¬HasEscape s) : unescape s = bytes s := by
  induction s with
  | nil => rfl
  | cons c rest ih =>
    rw [hasEscape_cons, not_or, not_and] at h
    rw [unescape_cons h.1, ih h.2]
    rfl

/-- A text is empty, begins with an escape, or with a character that begins none. -/
theorem escape_induction {motive : List Char → Prop} (nil : motive [])
    (escaped : ∀ a b high low rest, hexDigit? a = some high → hexDigit? b = some low →
      motive rest → motive ('%' :: a :: b :: rest))
    (char : ∀ c rest, (c = '%' → ¬StartsHex rest) → motive rest → motive (c :: rest)) :
    ∀ s, motive s
  | [] => nil
  | c :: rest => by
    by_cases h : c = '%' ∧ StartsHex rest
    · obtain ⟨rfl, a, b, after, rfl, ha, hb⟩ := h
      obtain ⟨high, hhigh⟩ := Option.isSome_iff_exists.mp ha
      obtain ⟨low, hlow⟩ := Option.isSome_iff_exists.mp hb
      exact escaped a b high low after hhigh hlow (escape_induction nil escaped char after)
    · exact char c rest (not_and.mp h) (escape_induction nil escaped char rest)

theorem length_utf8EncodeChar_pos (c : Char) : 0 < (String.utf8EncodeChar c).length := by
  rw [String.length_utf8EncodeChar]
  exact c.utf8Size_pos

theorem length_bytes_cons (c : Char) (rest : List Char) :
    (bytes (c :: rest)).length = (String.utf8EncodeChar c).length + (bytes rest).length := by
  rw [bytes, List.flatMap_cons, List.length_append, bytes]

theorem length_bytes_escaped (a b : Char) (rest : List Char) :
    (bytes rest).length + 3 ≤ (bytes ('%' :: a :: b :: rest)).length := by
  have ha := length_utf8EncodeChar_pos a
  have hb := length_utf8EncodeChar_pos b
  have hpercent := length_utf8EncodeChar_pos '%'
  rw [length_bytes_cons, length_bytes_cons, length_bytes_cons]
  omega

theorem length_unescape_le (s : List Char) : (unescape s).length ≤ (bytes s).length := by
  induction s using escape_induction with
  | nil => exact Nat.le_refl _
  | escaped a b high low rest ha hb ih =>
    have hthree := length_bytes_escaped a b rest
    rw [unescape_escaped ha hb, List.length_cons]
    omega
  | char c rest h ih =>
    rw [unescape_cons h, List.length_append, length_bytes_cons]
    omega

/-- An escape is shorter than it is written. -/
theorem length_unescape_lt (h : HasEscape s) : (unescape s).length < (bytes s).length := by
  induction s using escape_induction with
  | nil =>
    obtain ⟨before, after, heq, -⟩ := h
    simp at heq
  | escaped a b high low rest ha hb ih =>
    have hle := length_unescape_le rest
    have hthree := length_bytes_escaped a b rest
    rw [unescape_escaped ha hb, List.length_cons]
    omega
  | char c rest hc ih =>
    have hrest := ih ((hasEscape_cons.mp h).resolve_left fun hstart => hc hstart.1 hstart.2)
    rw [unescape_cons hc, List.length_append, length_bytes_cons]
    omega

theorem hexDigit?_upperHexDigit {n : Nat} (h : n < 16) : hexDigit? (upperHexDigit n) = some n := by
  have hall : ∀ n : Fin 16, hexDigit? (upperHexDigit n) = some n.val := by decide
  exact hall ⟨n, h⟩

theorem unescape_percentByte (b : UInt8) (rest : List Char) :
    unescape (percentByte b ++ rest) = b :: unescape rest := by
  have hlt := b.toNat_lt
  have hsum : b.toNat / 16 * 16 + b.toNat % 16 = b.toNat := Nat.div_add_mod' _ _
  have hescaped := unescape_escaped (hexDigit?_upperHexDigit (show b.toNat / 16 < 16 by omega))
    (hexDigit?_upperHexDigit (Nat.mod_lt b.toNat (by decide))) rest
  rw [hsum, UInt8.ofNat_toNat] at hescaped
  exact hescaped

theorem unescape_percentBytes (bs : List UInt8) (rest : List Char) :
    unescape (bs.flatMap percentByte ++ rest) = bs ++ unescape rest := by
  induction bs with
  | nil => rfl
  | cons b bs ih =>
    rw [List.flatMap_cons, List.append_assoc, unescape_percentByte, ih]
    rfl

theorem toNat_of_hexDigit? (h : (hexDigit? c).isSome) :
    (48 ≤ c.toNat ∧ c.toNat ≤ 57) ∨ (97 ≤ c.toNat ∧ c.toNat ≤ 102) ∨
      (65 ≤ c.toNat ∧ c.toNat ≤ 70) := by
  unfold hexDigit? at h
  split at h
  next hdigit =>
    simp only [Char.isDigit, Bool.and_eq_true, decide_eq_true_eq] at hdigit
    exact .inl hdigit
  next =>
    split at h
    next hlower => exact .inr (.inl hlower)
    next =>
      split at h
      next hupper => exact .inr (.inr hupper)
      next => cases h

theorem not_needsPathEscape_of_hexDigit? (h : (hexDigit? c).isSome) :
    needsPathEscape c = false := by
  have hrange := toNat_of_hexDigit? h
  have hne (d : Char) (hd : (hexDigit? d).isSome = false) : c ≠ d := by
    rintro rfl
    rw [h] at hd
    cases hd
  simp only [needsPathEscape, needsControlEscape, Bool.or_eq_false_iff, decide_eq_false_iff_not,
    beq_eq_false_iff_ne]
  refine ⟨⟨⟨⟨⟨⟨⟨⟨⟨?_, ?_⟩, ?_⟩, ?_⟩, ?_⟩, ?_⟩, ?_⟩, ?_⟩, ?_⟩, ?_⟩
  all_goals first | omega | exact hne _ (by decide)

theorem escapeChar_of_not {needs : Char → Bool} (h : needs c = false) :
    escapeChar needs c = [c] := by
  rw [escapeChar, h]
  rfl

theorem escapeChar_of_needs {needs : Char → Bool} (h : needs c = true) :
    escapeChar needs c = (String.utf8EncodeChar c).flatMap percentByte := by
  rw [escapeChar, if_pos h]

/-- What is escaped begins with a percent sign. -/
theorem head_escapeChar {needs : Char → Bool} (h : needs c = true) :
    ∃ tail, escapeChar needs c = '%' :: tail := by
  rw [escapeChar_of_needs h]
  cases hbytes : String.utf8EncodeChar c with
  | nil =>
    have hpos := length_utf8EncodeChar_pos c
    rw [hbytes] at hpos
    cases hpos
  | cons b bs => exact ⟨_, rfl⟩

/-- A hexadecimal digit at the start of an escaped text was there before. -/
theorem eq_cons_of_escaped_eq_cons {a : Char} (ha : (hexDigit? a).isSome)
    (h : s.flatMap (escapeChar needsPathEscape) = a :: rest) :
    ∃ s', s = a :: s' ∧ s'.flatMap (escapeChar needsPathEscape) = rest := by
  cases s with
  | nil => cases h
  | cons c s =>
    rw [List.flatMap_cons] at h
    cases hneeds : needsPathEscape c with
    | true =>
      obtain ⟨tail, htail⟩ := head_escapeChar hneeds
      rw [htail] at h
      cases h
      exact absurd ha (by decide)
    | false =>
      rw [escapeChar_of_not hneeds] at h
      cases h
      exact ⟨s, rfl, rfl⟩

theorem StartsHex.of_escaped (h : StartsHex (s.flatMap (escapeChar needsPathEscape))) :
    StartsHex s := by
  obtain ⟨a, b, rest, heq, ha, hb⟩ := h
  obtain ⟨s', rfl, hrest⟩ := eq_cons_of_escaped_eq_cons ha heq
  obtain ⟨s'', rfl, -⟩ := eq_cons_of_escaped_eq_cons hb hrest
  exact ⟨a, b, s'', rfl, ha, hb⟩

/-- Escaping what a path cannot hold does not change the bytes that a text stands for. -/
theorem unescape_escape (s : List Char) : unescape (escape needsPathEscape s).toList = unescape s := by
  rw [escape, String.toList_ofList]
  induction s using escape_induction with
  | nil => rfl
  | escaped a b high low rest ha hb ih =>
    have hkept {d : Char} {n : Nat} (hd : hexDigit? d = some n) :
        escapeChar needsPathEscape d = [d] :=
      escapeChar_of_not (not_needsPathEscape_of_hexDigit? (by rw [hd]; rfl))
    have hpercent : escapeChar needsPathEscape '%' = ['%'] := by decide
    simp only [List.flatMap_cons, hpercent, hkept ha, hkept hb, List.singleton_append]
    rw [unescape_escaped ha hb, unescape_escaped ha hb, ih]
  | char c rest h ih =>
    rw [List.flatMap_cons, unescape_cons h]
    cases hneeds : needsPathEscape c with
    | true => rw [escapeChar_of_needs hneeds, unescape_percentBytes, ih]
    | false =>
      rw [escapeChar_of_not hneeds, List.singleton_append,
        unescape_cons fun hc hstart => h hc hstart.of_escaped, ih]

end LightningDeposit.Url
