import LightningDeposit.Proofs.Text.Strip
import Mathlib.Data.Nat.Notation
import Mathlib.Tactic.IntervalCases

/-!
The forms in which UTF-8 lays out numbers. A byte that tells how many follow has the first bits of a
number, and each byte that follows has six more. The text of some characters is the form of each in
as few bytes as it fits; a form that is longer, that is of a surrogate or of a number beyond
Unicode, or that breaks off stands in the bytes of no text.
-/

namespace LightningDeposit.Text

/-- The bytes of a form after the first, with six bits of the number in each. -/
def utf8Tail : ℕ → ℕ → List ℕ
  | 0, _ => []
  | due + 1, n => utf8Tail due (n / 0x40) ++ [0x80 + n % 0x40]

/-- The bits by which a first byte tells how many bytes are due. -/
def utf8Mark (due : ℕ) : ℕ := if due = 0 then 0 else 0x100 - 2 ^ (7 - due)

/-- The number in a first byte and those due after it. -/
def utf8Form (due n : ℕ) : List ℕ := (utf8Mark due + n / 0x40 ^ due) :: utf8Tail due n

/-- The numbers below have room in a first byte and those due after it. -/
def utf8Limit (due : ℕ) : ℕ := if due = 0 then 0x80 else 2 ^ (5 * due + 6)

/-- The number of bytes that are due after the first one of a character. -/
def utf8Due (c : Char) : ℕ :=
  if c.toNat < utf8Limit 0 then 0
  else if c.toNat < utf8Limit 1 then 1
  else if c.toNat < utf8Limit 2 then 2
  else 3

/-- The bytes of a text as numbers. -/
def utf8 (s : List Char) : List ℕ := s.flatMap fun c => utf8Form (utf8Due c) c.toNat

/-- Bytes with something in them that has the looks of a character and is none. -/
inductive Malformed : List ℕ → Prop
  | overlong (before after : List ℕ) {due n : ℕ} (hdue : due ≤ 4) (hn : n < utf8Limit due) :
    Malformed (before ++ (utf8Form (due + 1) n ++ after))
  | surrogate (before after : List ℕ) {n : ℕ} (hlow : 0xD800 ≤ n) (hhigh : n ≤ 0xDFFF) :
    Malformed (before ++ (utf8Form 2 n ++ after))
  | beyond (before after : List ℕ) {due n : ℕ} (hdue : due ≤ 5) (hlow : 0x10FFFF < n)
    (hhigh : n < utf8Limit due) : Malformed (before ++ (utf8Form due n ++ after))
  | truncated (before after : List ℕ) {due n kept : ℕ} (hdue : due ≤ 5) (hn : n < utf8Limit due)
    (hkept : kept < due) (hafter : ∀ b ∈ after.head?, b < 0x80 ∨ 0xBF < b) :
    Malformed (before ++ ((utf8Form due n).take (kept + 1) ++ after))

section Forms

variable {due due' m n : ℕ}

theorem length_utf8Tail (due n : ℕ) : (utf8Tail due n).length = due := by
  induction due generalizing n with
  | zero => rfl
  | succ due ih => rw [utf8Tail, List.length_append, ih, List.length_singleton]

theorem mem_utf8Tail {b : ℕ} (h : b ∈ utf8Tail due n) : 0x80 ≤ b ∧ b ≤ 0xBF := by
  induction due generalizing n with
  | zero => cases h
  | succ due ih =>
    rw [utf8Tail, List.mem_append, List.mem_singleton] at h
    obtain h | rfl := h
    · exact ih h
    · omega

theorem utf8Limit_le_succ (due : ℕ) : utf8Limit due ≤ utf8Limit (due + 1) := by
  cases due with
  | zero => decide
  | succ due => exact Nat.pow_le_pow_right (by omega) (by omega)

/-- A number is told by what is in the first byte and what is in the others. -/
theorem eq_of_utf8Tail (hlead : m / 0x40 ^ due = n / 0x40 ^ due)
    (htail : utf8Tail due m = utf8Tail due n) : m = n := by
  induction due generalizing m n with
  | zero => simpa using hlead
  | succ due ih =>
    obtain ⟨hrest, hlast⟩ := List.append_inj' htail rfl
    have hupper : m / 0x40 = n / 0x40 := by
      apply ih _ hrest
      rw [Nat.div_div_eq_div_mul, Nat.div_div_eq_div_mul, ← Nat.pow_succ']
      exact hlead
    have hlower := (List.cons.inj hlast).1
    omega

/-- A first byte is not one of those due. -/
theorem utf8Lead_not_due (hdue : due ≤ 5) (hn : n < utf8Limit due) :
    utf8Mark due + n / 0x40 ^ due < 0x80 ∨ 0xBF < utf8Mark due + n / 0x40 ^ due := by
  interval_cases due <;> simp [utf8Limit, utf8Mark] at hn ⊢ <;> omega

/-- A first byte does not tell two numbers of bytes. -/
theorem utf8Lead_inj (hdue : due ≤ 5) (hdue' : due' ≤ 5) (hm : m < utf8Limit due)
    (hn : n < utf8Limit due')
    (h : utf8Mark due + m / 0x40 ^ due = utf8Mark due' + n / 0x40 ^ due') : due = due' := by
  interval_cases due <;> interval_cases due' <;> simp [utf8Limit, utf8Mark] at hm hn h ⊢ <;> omega

theorem utf8Form_inj (hdue : due ≤ 5) (hdue' : due' ≤ 5) (hm : m < utf8Limit due)
    (hn : n < utf8Limit due') {rest rest' : List ℕ}
    (h : utf8Form due m ++ rest = utf8Form due' n ++ rest') : due = due' ∧ m = n := by
  obtain ⟨hlead, htail⟩ := List.cons.inj h
  obtain rfl := utf8Lead_inj hdue hdue' hm hn hlead
  refine ⟨rfl, eq_of_utf8Tail (Nat.add_left_cancel hlead) ?_⟩
  exact (List.append_inj htail (by rw [length_utf8Tail, length_utf8Tail])).1

end Forms

section Characters

variable {c : Char} {s : List Char}

theorem scalar_bounds (c : Char) : c.toNat < 0xD800 ∨ 0xDFFF < c.toNat ∧ c.toNat ≤ 0x10FFFF := by
  obtain h | ⟨hlow, hhigh⟩ := c.valid
  · exact .inl h
  · exact .inr ⟨hlow, Nat.le_of_lt_succ hhigh⟩

/-- A character has room in the bytes that are due, of which there are three at most. -/
theorem utf8Due_spec (c : Char) : utf8Due c ≤ 3 ∧ c.toNat < utf8Limit (utf8Due c) := by
  have hscalar := scalar_bounds c
  unfold utf8Due
  split_ifs with hone htwo hthree
  · exact ⟨by omega, hone⟩
  · exact ⟨by omega, htwo⟩
  · exact ⟨by omega, hthree⟩
  · have hlimit : utf8Limit 3 = 0x200000 := rfl
    exact ⟨by omega, by omega⟩

/-- A character has no room in fewer bytes. -/
theorem utf8Limit_le_of_lt {due : ℕ} (h : due < utf8Due c) : utf8Limit due ≤ c.toNat := by
  unfold utf8Due at h
  split_ifs at h with hone htwo hthree
  · omega
  · obtain rfl : due = 0 := by omega
    omega
  · interval_cases due <;> omega
  · interval_cases due <;> omega

/-- A byte that is not due to one before it begins a character. -/
theorem exists_char_of_lead {before after : List ℕ} {b : ℕ} (h : utf8 s = before ++ b :: after)
    (hb : b < 0x80 ∨ 0xBF < b) :
    ∃ c rest, b :: after = utf8Form (utf8Due c) c.toNat ++ utf8 rest := by
  induction s generalizing before with
  | nil => simp [utf8] at h
  | cons c s ih =>
    rw [utf8, List.flatMap_cons, List.append_eq_append_iff] at h
    obtain ⟨rest, rfl, hrest⟩ | ⟨rest, hform, hrest⟩ := h
    · exact ih hrest
    · cases rest with
      | nil => exact @ih [] hrest.symm
      | cons first rest =>
        obtain ⟨rfl, rfl⟩ := List.cons.inj hrest
        cases before with
        | nil => exact ⟨c, s, by rw [hform]; rfl⟩
        | cons lead before =>
          have hdue : b ∈ utf8Tail (utf8Due c) c.toNat := by
            rw [(List.cons.inj hform).2]
            simp
          have hbounds := mem_utf8Tail hdue
          omega

/-- Where the first byte of a form stands in a text, there is a character. -/
theorem exists_char_of_form {before after : List ℕ} {due n : ℕ} (hdue : due ≤ 5)
    (hn : n < utf8Limit due) (h : utf8 s = before ++ (utf8Form due n ++ after)) :
    ∃ c, utf8Due c = due ∧ c.toNat = n := by
  obtain ⟨c, rest, hc⟩ := exists_char_of_lead h (utf8Lead_not_due hdue hn)
  obtain ⟨hle, hlt⟩ := utf8Due_spec c
  obtain ⟨hsame, rfl⟩ := utf8Form_inj hdue (by omega) hn hlt hc
  exact ⟨c, hsame.symm, rfl⟩

/-- The bytes of a text have nothing malformed in them. -/
theorem not_malformed_utf8 (s : List Char) : ¬Malformed (utf8 s) := by
  intro h
  generalize hbytes : utf8 s = bytes at h
  cases h with
  | @overlong before after due n hdue hn =>
    have hroom : n < utf8Limit (due + 1) := hn.trans_le (utf8Limit_le_succ due)
    obtain ⟨c, hc, rfl⟩ := exists_char_of_form (by omega) hroom hbytes
    have hshort : utf8Limit due ≤ c.toNat := utf8Limit_le_of_lt (by omega)
    omega
  | @surrogate before after n hlow hhigh =>
    have hlimit : utf8Limit 2 = 0x10000 := rfl
    obtain ⟨c, -, rfl⟩ := exists_char_of_form (by omega) (by omega) hbytes
    have hscalar := scalar_bounds c
    omega
  | @beyond before after due n hdue hlow hhigh =>
    obtain ⟨c, -, rfl⟩ := exists_char_of_form hdue hhigh hbytes
    have hscalar := scalar_bounds c
    omega
  | @truncated before after due n kept hdue hn hkept hafter =>
    rw [utf8Form, List.take_succ_cons, List.cons_append] at hbytes
    obtain ⟨c, rest, hc⟩ := exists_char_of_lead hbytes (utf8Lead_not_due hdue hn)
    obtain ⟨hle, hlt⟩ := utf8Due_spec c
    obtain rfl := utf8Lead_inj hdue (by omega) hn hlt (List.cons.inj hc).1
    have htail : (utf8Tail (utf8Due c) n).take kept ++ after =
        utf8Tail (utf8Due c) c.toNat ++ utf8 rest := (List.cons.inj hc).2
    have hlength : ((utf8Tail (utf8Due c) n).take kept).length = kept := by
      rw [List.length_take, length_utf8Tail]
      omega
    have hroom : kept < (utf8Tail (utf8Due c) c.toNat).length := by
      rwa [length_utf8Tail]
    -- What follows the bytes that are kept stands where another byte is due.
    have hnext : after.head? = (utf8Tail (utf8Due c) c.toNat)[kept]? := by
      calc after.head? = ((utf8Tail (utf8Due c) n).take kept ++ after)[kept]? := by
            rw [List.getElem?_append_right hlength.le, hlength, Nat.sub_self,
              List.head?_eq_getElem?]
        _ = (utf8Tail (utf8Due c) c.toNat ++ utf8 rest)[kept]? := by rw [htail]
        _ = (utf8Tail (utf8Due c) c.toNat)[kept]? := List.getElem?_append_left hroom
    rw [List.getElem?_eq_getElem hroom] at hnext
    have hbyte := mem_utf8Tail (List.getElem_mem hroom)
    have hnot := hafter _ hnext
    omega

/-- A character is encoded as its form. -/
theorem map_toNat_utf8EncodeChar (c : Char) :
    (String.utf8EncodeChar c).map UInt8.toNat = utf8Form (utf8Due c) c.toNat := by
  have hscalar := scalar_bounds c
  have hval : c.val.toNat = c.toNat := rfl
  have hone : utf8Limit 0 = 0x80 := rfl
  have htwo : utf8Limit 1 = 0x800 := rfl
  have hthree : utf8Limit 2 = 0x10000 := rfl
  -- The two tables of lengths draw their lines at the same places, so four cases are left.
  unfold String.utf8EncodeChar utf8Due
  simp only [hval, hone, htwo, hthree]
  split_ifs <;> try omega
  all_goals
    simp only [utf8Form, utf8Mark, utf8Tail, List.map_cons, List.map_nil, UInt8.toNat_ofNat']
    simp
    omega

end Characters

theorem fromUTF8?_eq_some_iff {bytes : ByteArray} {s : String} :
    String.fromUTF8? bytes = some s ↔ bytes = s.toUTF8 := by
  unfold String.fromUTF8?
  constructor
  · intro h
    split at h
    next hvalid =>
      cases h
      rfl
    next => cases h
  · rintro rfl
    rw [String.toUTF8_eq_toByteArray, dif_pos s.isValidUTF8]
    rfl

end LightningDeposit.Text
