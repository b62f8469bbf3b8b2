import LightningDeposit.Json.Writer
import LightningDeposit.Proofs.Json.Spelling

/-!
How strings and numbers are written: in one of their spellings each. Whatever has to be escaped in a
string, what is written between the quotes spells that string, and a number whose digits are those
of a number is written as one.
-/

namespace LightningDeposit.Json

section Strings

theorem unitEscape_controlEscape {n : ℕ} (h : n < 0x20) : UnitEscape (controlEscape n) n := by
  have hzero : HexDigit '0' 0 := ⟨by decide, .inl rfl⟩
  have hhigh : HexDigit (Nat.digitChar (n / 16)) (n / 16) := ⟨by omega, .inl rfl⟩
  have hlow : HexDigit (Nat.digitChar (n % 16)) (n % 16) := ⟨by omega, .inl rfl⟩
  have hdigits := (((HexDigits.nil.snoc hzero).snoc hzero).snoc hhigh).snoc hlow
  refine ⟨_, rfl, rfl, ?_⟩
  rwa [Nat.zero_mul, Nat.zero_add, Nat.div_add_mod'] at hdigits

/-- A character is written as a spelling of it. -/
theorem spells_writtenChar (c : Char) : Spells (writtenChar c) [c] := by
  unfold writtenChar
  split_ifs with hquote hbackslash hn hr ht h8 h12 hcontrol
  · exact hquote ▸ .escape .quote .nil
  · exact hbackslash ▸ .escape .backslash .nil
  · exact hn ▸ .escape .lineFeed .nil
  · exact hr ▸ .escape .carriageReturn .nil
  · exact ht ▸ .escape .tab .nil
  · have hc : c = Char.ofNat 8 := by rw [← h8, Char.ofNat_toNat]
    exact hc ▸ .escape .backspace .nil
  · have hc : c = Char.ofNat 12 := by rw [← h12, Char.ofNat_toNat]
    exact hc ▸ .escape .formFeed .nil
  · rw [← List.append_nil (controlEscape c.toNat)]
    exact .unit (unitEscape_controlEscape hcontrol) .nil
  · exact .plain hquote hbackslash (Nat.not_lt.mp hcontrol) .nil

theorem spells_flatMap_writtenChar (s : List Char) : Spells (s.flatMap writtenChar) s := by
  induction s with
  | nil => exact .nil
  | cons c rest ih =>
    rw [List.flatMap_cons]
    exact (spells_writtenChar c).append ih

/-- A literal stands in quotes with its content between them, also one without content. -/
theorem writeString_eq (content : StringLiteral) :
    ∃ body, writeString content = '"' :: (body ++ ['"']) ∧ Content body content := by
  cases content with
  | some s => exact ⟨s.toList.flatMap writtenChar, rfl, spells_flatMap_writtenChar s.toList⟩
  | none =>
    have h13 : HexDigit 'd' 13 := ⟨by decide, .inl rfl⟩
    have h8 : HexDigit '8' 8 := ⟨by decide, .inl rfl⟩
    have h0 : HexDigit '0' 0 := ⟨by decide, .inl rfl⟩
    have hdigits : HexDigits ['d', '8', '0', '0'] 0xd800 :=
      (((HexDigits.nil.snoc h13).snoc h8).snoc h0).snoc h0
    have hchunks : Chunks ['\\', 'u', 'd', '8', '0', '0'] [.unit 0xd800] :=
      Chunks.nil.snoc (.unit ⟨_, rfl, rfl, hdigits⟩)
    have hlone : literalOfPieces [.unit 0xd800] = none := by
      simp [literalOfPieces, joinPieces, isLowSurrogate, isHighSurrogate]
    exact ⟨_, rfl, content_iff.mpr ⟨_, hchunks, hlone⟩⟩

end Strings

section Numbers

theorem spellsNumber_writeNumber {n : NumberLiteral} (h : n.WellFormed) :
    SpellsNumber (writeNumber n) n := by
  obtain ⟨negative, whole, places, exponent⟩ := n
  have hwritten (s : List Char) (hs : SpellsExponent s exponent) :
      SpellsNumber ((if negative then ['-'] else []) ++ (whole ++ (writtenPlaces places ++ s)))
        ⟨negative, whole, places, exponent⟩ :=
    ⟨_, rfl, h, s, hs, rfl⟩
  rcases exponent with - | ⟨sign, digits⟩
  · have hnumber := hwritten [] .absent
    cases places <;> simpa [writeNumber, writtenPlaces] using hnumber
  · have hsign : ExponentSign (if sign then ['-'] else []) sign := by
      cases sign
      · exact .none
      · exact .minus
    have hnumber := hwritten _ (.present (.inl rfl) hsign)
    cases places <;> simpa [writeNumber, writtenPlaces] using hnumber

end Numbers

end LightningDeposit.Json
