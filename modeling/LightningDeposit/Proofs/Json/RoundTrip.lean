import LightningDeposit.Proofs.Json.Grammar
import LightningDeposit.Proofs.Json.Literal

/-!
Reading what has been written. A value whose numbers are spelled as numbers comes back from its text
as it was, with every member and item in its place and every string character for character, so no
string can end early or bring in a member of its own.
-/

namespace LightningDeposit.Json

section Writing

/-- A character that no word or number can hold. -/
def IsDelimiter (c : Char) : Prop :=
  c.isLower = false ∧ isNumberChar c = false

theorem isDelimiter_head {c : Char} (hc : IsDelimiter c) (s : List Char) :
    ∀ d ∈ (c :: s).head?, IsDelimiter d := by
  rintro _ ⟨⟩
  exact hc

theorem spelled_writeString (content : StringLiteral) {s : List Char} {ts : List Token}
    (hs : Spelled s ts) :
    Spelled (writeString content ++ s) (.scalar (.string content) :: ts) := by
  obtain ⟨body, hbody, hcontent⟩ := writeString_eq content
  rw [hbody, List.cons_append, List.append_assoc, List.singleton_append]
  exact hs.string hcontent

mutual

/-- A value is written as its tokens, whatever follows after it. -/
theorem spelled_writeChars (v : Json) (h : v.WellFormed) {s : List Char} {ts : List Token}
    (hs : Spelled s ts) (hend : ∀ c ∈ s.head?, IsDelimiter c) :
    Spelled (writeChars v ++ s) (tokensOf v ++ ts) := by
  have hlower : ∀ c ∈ s.head?, c.isLower = false := fun c hc => (hend c hc).1
  match v with
  | .null => exact hs.word .null hlower
  | .bool true => exact hs.word .true hlower
  | .bool false => exact hs.word .false hlower
  | .number literal =>
    exact hs.number (spellsNumber_writeNumber h) fun c hc => (hend c hc).2
  | .string content => exact spelled_writeString content hs
  | .array items =>
    have hitems := spelled_writeItems items h (hs.mark .arrayEnd) (isDelimiter_head ⟨rfl, rfl⟩ s)
    have harray := hitems.mark .arrayStart
    simpa [writeChars, tokensOf] using harray
  | .object members =>
    have hmembers := spelled_writeMembers members h (hs.mark .objectEnd)
      (isDelimiter_head ⟨rfl, rfl⟩ s)
    have hobject := hmembers.mark .objectStart
    simpa [writeChars, tokensOf] using hobject

theorem spelled_writeItems (items : List Json) (h : ItemsWellFormed items) {s : List Char}
    {ts : List Token} (hs : Spelled s ts) (hend : ∀ c ∈ s.head?, IsDelimiter c) :
    Spelled (writeItems items ++ s) (itemTokens items ++ ts) := by
  match items with
  | [] => exact hs
  | [v] => exact spelled_writeChars v h.1 hs hend
  | v :: w :: rest =>
    have hrest := (spelled_writeItems (w :: rest) h.2 hs hend).mark .comma
    have hall := spelled_writeChars v h.1 hrest (isDelimiter_head ⟨rfl, rfl⟩ _)
    simpa [writeItems, itemTokens] using hall

theorem spelled_writeMembers (members : List (StringLiteral × Json))
    (h : MembersWellFormed members) {s : List Char} {ts : List Token} (hs : Spelled s ts)
    (hend : ∀ c ∈ s.head?, IsDelimiter c) :
    Spelled (writeMembers members ++ s) (memberTokens members ++ ts) := by
  match members with
  | [] => exact hs
  | [(key, v)] =>
    have hvalue := (spelled_writeChars v h.1 hs hend).mark .colon
    have hall := spelled_writeString key hvalue
    simpa [writeMembers, memberTokens] using hall
  | (key, v) :: next :: rest =>
    have hrest := (spelled_writeMembers (next :: rest) h.2 hs hend).mark .comma
    have hvalue := (spelled_writeChars v h.1 hrest (isDelimiter_head ⟨rfl, rfl⟩ _)).mark .colon
    have hall := spelled_writeString key hvalue
    simpa [writeMembers, memberTokens] using hall

end

theorem isText_write {v : Json} (h : v.WellFormed) : IsText v.write v := by
  have hspelled := spelled_writeChars v h .nil (by simp)
  rw [List.append_nil, List.append_nil] at hspelled
  rwa [IsText, write, String.toList_ofList]

/-- A written value is read back as it was. -/
theorem parse?_write {v : Json} (h : v.WellFormed) : parse? v.write = some v :=
  parse?_eq_some_iff.mpr (isText_write h)

/-- A text is of a value if what is read out of it is written like that value. -/
theorem isText_of_write_eq {text : String} {v : Json} (hv : v.WellFormed)
    (h : (parse? text).map write = some v.write) : IsText text v := by
  obtain ⟨w, hw, hsame⟩ := Option.map_eq_some_iff.mp h
  have hback := parse?_write (wellFormed_of_parse? hw)
  rw [hsame, parse?_write hv] at hback
  cases hback
  exact parse?_eq_some_iff.mp hw

end Writing

section Encoding

theorem head?_toDigits {n : ℕ} (h : (Nat.toDigits 10 n).head? = some '0') : n = 0 := by
  induction n using Nat.strongRecOn with
  | ind n ih =>
    rcases Nat.lt_or_ge n 10 with hsmall | hlarge
    · rw [Nat.toDigits_of_lt_base hsmall, List.head?_cons] at h
      have hdigit : ∀ d < 10, Nat.digitChar d = '0' → d = 0 := by decide
      exact hdigit n hsmall (Option.some.inj h)
    · rw [Nat.toDigits_of_base_le (by omega) hlarge, List.head?_append,
        List.head?_eq_some_head Nat.toDigits_ne_nil, Option.some_or,
        ← List.head?_eq_some_head] at h
      have := ih (n / 10) (by omega) h
      omega

theorem wellFormed_nat (n : ℕ) : (nat n).WellFormed := by
  refine ⟨⟨Nat.toDigits_ne_nil, fun c hc => Nat.isDigit_of_mem_toDigits (by omega) (by omega) hc⟩,
    fun hzero => ?_, fun _ h => (by cases h), fun _ h => (by cases h)⟩
  rw [head?_toDigits hzero, Nat.toDigits_zero]

theorem wellFormed_word (n : UInt64) : (word n).WellFormed := wellFormed_nat n.toNat

theorem wellFormed_text (s : String) : (text s).WellFormed := trivial

theorem wellFormed_record {members : List (String × Json)}
    (h : ∀ m ∈ members, m.2.WellFormed) : (record members).WellFormed := by
  induction members with
  | nil => exact trivial
  | cons m rest ih =>
    exact ⟨h m List.mem_cons_self, ih fun m hm => h m (List.mem_cons_of_mem _ hm)⟩

end Encoding

end LightningDeposit.Json
