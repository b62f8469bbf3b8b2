import LightningDeposit.Json.Lexer
import Mathlib.Data.List.TakeWhile

/-!
The ways to spell a string or a number in JSON. A character of a string stands for itself, or comes
as an escape of one letter or as its UTF-16 units in hexadecimal digits, so one text has many
spellings; a number may have a plus sign in its exponent and a capital letter in front of that. What
is read out of characters is what they spell, and nothing else is read.
-/

namespace LightningDeposit

namespace NumberLiteral

/-- A run of digits. -/
def IsDigits (digits : List Char) : Prop :=
  digits ≠ [] ∧ ∀ c ∈ digits, c.isDigit = true

/-- The spelling is that of a number: a zero stands alone in front of the point, and there are
digits after a point and after the letter of an exponent. -/
structure WellFormed (n : NumberLiteral) : Prop where
  whole : IsDigits n.whole
  zero : n.whole.head? = some '0' → n.whole = ['0']
  places : ∀ digits ∈ n.places, IsDigits digits
  exponent : ∀ e ∈ n.exponent, IsDigits e.2

end NumberLiteral

namespace Json

variable {tokens : List Token}

/-- Reads characters from a state on. -/
def lex (lexer : Lexer) (s : List Char) : Option Lexer :=
  s.foldlM Lexer.step lexer

@[simp]
theorem lex_nil (lexer : Lexer) : lex lexer [] = some lexer := rfl

@[simp]
theorem lex_cons (lexer : Lexer) (c : Char) (s : List Char) :
    lex lexer (c :: s) = (lexer.step c).bind fun next => lex next s := by
  simp only [lex, List.foldlM_cons]
  rfl

theorem lex_append (lexer : Lexer) (s t : List Char) :
    lex lexer (s ++ t) = (lex lexer s).bind fun next => lex next t := by
  simp only [lex, List.foldlM_append]
  rfl

section Strings

/-- The letter that stands for a character after a backslash. -/
inductive Escape : Char → Char → Prop
  | quote : Escape '"' '"'
  | backslash : Escape '\\' '\\'
  | slash : Escape '/' '/'
  | backspace : Escape 'b' (Char.ofNat 8)
  | formFeed : Escape 'f' (Char.ofNat 12)
  | lineFeed : Escape 'n' '\n'
  | carriageReturn : Escape 'r' '\r'
  | tab : Escape 't' '\t'

/-- A hexadecimal digit, in small letters or in capitals. -/
def HexDigit (c : Char) (digit : ℕ) : Prop :=
  digit < 16 ∧ (c = Nat.digitChar digit ∨ c = (Nat.digitChar digit).toUpper)

/-- Hexadecimal digits of a number, which may begin with zeros. -/
inductive HexDigits : List Char → ℕ → Prop
  | nil : HexDigits [] 0
  | snoc {digits : List Char} {value digit : ℕ} {c : Char} (h : HexDigits digits value)
    (hc : HexDigit c digit) : HexDigits (digits ++ [c]) (value * 16 + digit)

/-- The escape of a UTF-16 unit, with four digits. -/
def UnitEscape (s : List Char) (n : ℕ) : Prop :=
  ∃ digits, s = '\\' :: 'u' :: digits ∧ digits.length = 4 ∧ HexDigits digits n

/-- What stands between the quotes of a literal, and the characters that it spells. A character from
U+10000 on has two units. -/
inductive Spells : List Char → List Char → Prop
  | nil : Spells [] []
  | plain {c : Char} {s t : List Char} (hquote : c ≠ '"') (hbackslash : c ≠ '\\')
    (hcontrol : 0x20 ≤ c.toNat) (h : Spells s t) : Spells (c :: s) (c :: t)
  | escape {letter c : Char} {s t : List Char} (hc : Escape letter c) (h : Spells s t) :
    Spells ('\\' :: letter :: s) (c :: t)
  | unit {c : Char} {escaped s t : List Char} (hc : UnitEscape escaped c.toNat) (h : Spells s t) :
    Spells (escaped ++ s) (c :: t)
  | pair {c : Char} {high low s t : List Char} (hbeyond : 0x10000 ≤ c.toNat)
    (hhigh : UnitEscape high (0xD800 + (c.toNat - 0x10000) / 0x400))
    (hlow : UnitEscape low (0xDC00 + (c.toNat - 0x10000) % 0x400)) (h : Spells s t) :
    Spells (high ++ (low ++ s)) (c :: t)

/-- One piece of a literal as it is written. -/
inductive Chunk : List Char → Piece → Prop
  | plain {c : Char} (hquote : c ≠ '"') (hbackslash : c ≠ '\\') (hcontrol : 0x20 ≤ c.toNat) :
    Chunk [c] (.char c)
  | escape {letter c : Char} (hc : Escape letter c) : Chunk ['\\', letter] (.char c)
  | unit {escaped : List Char} {n : ℕ} (hn : UnitEscape escaped n) : Chunk escaped (.unit n)

/-- Pieces of a literal as they are written, the latest first. -/
inductive Chunks : List Char → List Piece → Prop
  | nil : Chunks [] []
  | snoc {s t : List Char} {read : List Piece} {piece : Piece} (h : Chunks s read)
    (hpiece : Chunk t piece) : Chunks (s ++ t) (piece :: read)

variable {s t : List Char} {read : List Piece}

theorem escaped?_eq_some_iff {letter c : Char} : escaped? letter = some c ↔ Escape letter c := by
  constructor
  · intro h
    unfold escaped? at h
    split_ifs at h with hself hb hf hn hr ht
    · cases h
      rcases hself with rfl | rfl | rfl
      · exact .quote
      · exact .backslash
      · exact .slash
    · cases h
      exact hb ▸ .backspace
    · cases h
      exact hf ▸ .formFeed
    · cases h
      exact hn ▸ .lineFeed
    · cases h
      exact hr ▸ .carriageReturn
    · cases h
      exact ht ▸ .tab
  · intro h
    cases h <;> rfl

theorem hexValue?_digitChar : ∀ d < 16, hexValue? (Nat.digitChar d) = some d := by
  decide

theorem hexValue?_eq_some_iff {c : Char} {digit : ℕ} :
    hexValue? c = some digit ↔ HexDigit c digit := by
  have hdecimal : ∀ d < 10, Char.ofNat (48 + d) = Nat.digitChar d := by decide
  have hsmall : ∀ d < 6, Char.ofNat (97 + d) = Nat.digitChar (10 + d) := by decide
  have hcapital : ∀ d < 6, Char.ofNat (65 + d) = (Nat.digitChar (10 + d)).toUpper := by decide
  constructor
  · intro h
    simp only [hexValue?] at h
    split_ifs at h with h₁ h₂ h₃
    · cases h
      refine ⟨by omega, .inl ?_⟩
      rw [← hdecimal (c.toNat - 48) (by omega), Nat.add_sub_cancel' h₁.1, Char.ofNat_toNat]
    · cases h
      refine ⟨by omega, .inl ?_⟩
      have hdigit : c.toNat - 87 = 10 + (c.toNat - 97) := by omega
      rw [hdigit, ← hsmall (c.toNat - 97) (by omega), Nat.add_sub_cancel' h₂.1, Char.ofNat_toNat]
    · cases h
      refine ⟨by omega, .inr ?_⟩
      have hdigit : c.toNat - 55 = 10 + (c.toNat - 65) := by omega
      rw [hdigit, ← hcapital (c.toNat - 65) (by omega), Nat.add_sub_cancel' h₃.1, Char.ofNat_toNat]
  · have hread : ∀ d < 16, hexValue? (Nat.digitChar d).toUpper = some d := by decide
    rintro ⟨hlt, rfl | rfl⟩
    · exact hexValue?_digitChar digit hlt
    · exact hread digit hlt

theorem step_string (read : List Piece) (c : Char) :
    Lexer.step ⟨tokens, .string read⟩ c = Lexer.inString ⟨tokens, .string read⟩ read c := rfl

theorem step_escape_backslash (read : List Piece) :
    Lexer.step ⟨tokens, .string read⟩ '\\' = some ⟨tokens, .escape read⟩ := rfl

theorem step_unit {read : List Piece} {due value digit : ℕ} {c : Char}
    (h : hexValue? c = some digit) :
    Lexer.step ⟨tokens, .unit read due value⟩ c =
      some (if due = 1 then ⟨tokens, .string (.unit (value * 16 + digit) :: read)⟩
        else ⟨tokens, .unit read (due - 1) (value * 16 + digit)⟩) := by
  simp only [Lexer.step, h, Option.map_some]

/-- Digits are read up to the fourth. -/
theorem lex_hexDigits {digits : List Char} {n : ℕ} (h : HexDigits digits n)
    (hlength : digits.length < 4) : lex ⟨tokens, .unit read 4 0⟩ digits =
      some ⟨tokens, .unit read (4 - digits.length) n⟩ := by
  induction h with
  | nil => rfl
  | snoc h hc ih =>
    rw [List.length_append, List.length_singleton] at hlength ⊢
    rw [lex_append, ih (by omega), Option.bind_some, lex_cons,
      step_unit (hexValue?_eq_some_iff.mpr hc), if_neg (by omega), Option.bind_some, lex_nil]
    congr 3

theorem lex_unitEscape {n : ℕ} (h : UnitEscape s n) :
    lex ⟨tokens, .string read⟩ s = some ⟨tokens, .string (.unit n :: read)⟩ := by
  obtain ⟨digits, rfl, hlength, hdigits⟩ := h
  cases hdigits with
  | nil => cases hlength
  | @snoc digits value digit c hdigits hc =>
    rw [List.length_append, List.length_singleton] at hlength
    have hlast : 4 - digits.length = 1 := by omega
    have hescape : Lexer.step ⟨tokens, .escape read⟩ 'u' = some ⟨tokens, .unit read 4 0⟩ := rfl
    rw [lex_cons, step_escape_backslash, Option.bind_some, lex_cons, hescape, Option.bind_some,
      lex_append, lex_hexDigits hdigits (by omega), Option.bind_some, hlast, lex_cons,
      step_unit (hexValue?_eq_some_iff.mpr hc), if_pos rfl, Option.bind_some, lex_nil]

theorem lex_chunk {piece : Piece} (h : Chunk s piece) :
    lex ⟨tokens, .string read⟩ s = some ⟨tokens, .string (piece :: read)⟩ := by
  cases h with
  | plain hquote hbackslash hcontrol =>
    rw [lex_cons, step_string, Lexer.inString, if_neg hquote, if_neg hbackslash,
      if_neg (Nat.not_lt.mpr hcontrol), Option.bind_some, lex_nil]
  | @escape letter c hc =>
    have hletter : letter ≠ 'u' := by
      rintro rfl
      cases hc
    have hescape : Lexer.step ⟨tokens, .escape read⟩ letter =
        some ⟨tokens, .string (.char c :: read)⟩ := by
      simp [Lexer.step, hletter, escaped?_eq_some_iff.mpr hc]
    rw [lex_cons, step_escape_backslash, Option.bind_some, lex_cons, hescape, Option.bind_some,
      lex_nil]
  | unit hn => exact lex_unitEscape hn

theorem lex_chunks {pieces : List Piece} (h : Chunks s pieces) :
    lex ⟨tokens, .string read⟩ s = some ⟨tokens, .string (pieces ++ read)⟩ := by
  induction h with
  | nil => rfl
  | snoc h hpiece ih =>
    rw [lex_append, ih, Option.bind_some, lex_chunk hpiece]
    rfl

theorem Chunks.unique {pieces other : List Piece} (h : Chunks s pieces) (h' : Chunks s other) :
    pieces = other := by
  have hread {pieces : List Piece} (h : Chunks s pieces) :
      lex ⟨[], .string []⟩ s = some ⟨[], .string (pieces ++ [])⟩ := lex_chunks h
  have hsame := (hread h).symm.trans (hread h')
  simpa using hsame

theorem Chunks.append {later : List Piece} (h : Chunks s read) (ht : Chunks t later) :
    Chunks (s ++ t) (later ++ read) := by
  induction ht with
  | nil => rwa [List.append_nil]
  | snoc _ hpiece ih =>
    rw [← List.append_assoc]
    exact ih.snoc hpiece

theorem Chunks.cons {piece : Piece} (hpiece : Chunk s piece) (ht : Chunks t read) :
    Chunks (s ++ t) (read ++ [piece]) :=
  (Chunks.nil.snoc hpiece).append ht

theorem Spells.append {s' t' : List Char} (h : Spells s t) (h' : Spells s' t') :
    Spells (s ++ s') (t ++ t') := by
  induction h with
  | nil => exact h'
  | plain hquote hbackslash hcontrol _ ih => exact ih.plain hquote hbackslash hcontrol
  | escape hc _ ih => exact ih.escape hc
  | unit hc _ ih =>
    rw [List.append_assoc]
    exact ih.unit hc
  | pair hbeyond hhigh hlow _ ih =>
    rw [List.append_assoc, List.append_assoc]
    exact ih.pair hbeyond hhigh hlow

theorem not_surrogate (c : Char) :
    isLowSurrogate c.toNat = false ∧ isHighSurrogate c.toNat = false := by
  have hvalid : c.toNat < 0xD800 ∨ 0xDFFF < c.toNat ∧ c.toNat < 0x110000 := c.valid
  simp only [isLowSurrogate, isHighSurrogate, decide_eq_false_iff_not]
  omega

theorem joinPieces_unit {n : ℕ} (hlow : isLowSurrogate n = false) (hhigh : isHighSurrogate n = false)
    (before : List Piece) (chars : List Char) :
    joinPieces (.unit n :: before) chars = joinPieces before (Char.ofNat n :: chars) := by
  rcases before with - | ⟨⟨c⟩ | ⟨high⟩, before⟩ <;> simp [joinPieces, hlow, hhigh]

/-- The two units of a character that is beyond one. -/
theorem joinPieces_pair {c : Char} (hbeyond : 0x10000 ≤ c.toNat) (before : List Piece)
    (chars : List Char) :
    joinPieces (.unit (0xDC00 + (c.toNat - 0x10000) % 0x400) ::
        .unit (0xD800 + (c.toNat - 0x10000) / 0x400) :: before) chars =
      joinPieces before (c :: chars) := by
  have hvalid : c.toNat < 0xD800 ∨ 0xDFFF < c.toNat ∧ c.toNat < 0x110000 := c.valid
  have hlow : isLowSurrogate (0xDC00 + (c.toNat - 0x10000) % 0x400) = true := by
    simp only [isLowSurrogate, decide_eq_true_eq]
    omega
  have hhigh : isHighSurrogate (0xD800 + (c.toNat - 0x10000) / 0x400) = true := by
    simp only [isHighSurrogate, decide_eq_true_eq]
    omega
  have hback : 0x10000 + (0xD800 + (c.toNat - 0x10000) / 0x400 - 0xD800) * 0x400 +
      (0xDC00 + (c.toNat - 0x10000) % 0x400 - 0xDC00) = c.toNat := by
    omega
  rw [joinPieces, if_pos hlow, if_pos hhigh, hback, Char.ofNat_toNat]

/-- A spelling consists of pieces that join to what it spells. -/
theorem Spells.chunks (h : Spells s t) : ∃ read, Chunks s read ∧
    ∀ before chars, joinPieces (read ++ before) chars = joinPieces before (t ++ chars) := by
  induction h with
  | nil => exact ⟨[], .nil, fun _ _ => rfl⟩
  | plain hquote hbackslash hcontrol _ ih =>
    obtain ⟨read, hread, hjoin⟩ := ih
    refine ⟨_, hread.cons (.plain hquote hbackslash hcontrol), fun before chars => ?_⟩
    rw [List.append_assoc, hjoin, List.singleton_append, joinPieces]
    rfl
  | escape hc _ ih =>
    obtain ⟨read, hread, hjoin⟩ := ih
    refine ⟨_, hread.cons (.escape hc), fun before chars => ?_⟩
    rw [List.append_assoc, hjoin, List.singleton_append, joinPieces]
    rfl
  | @unit c escaped s t hc _ ih =>
    obtain ⟨read, hread, hjoin⟩ := ih
    obtain ⟨hlow, hhigh⟩ := not_surrogate c
    refine ⟨_, hread.cons (.unit hc), fun before chars => ?_⟩
    rw [List.append_assoc, hjoin, List.singleton_append, joinPieces_unit hlow hhigh,
      Char.ofNat_toNat]
    rfl
  | pair hbeyond hhigh hlow _ ih =>
    obtain ⟨read, hread, hjoin⟩ := ih
    refine ⟨_, (hread.cons (.unit hlow)).cons (.unit hhigh), fun before chars => ?_⟩
    rw [List.append_assoc, List.append_assoc, hjoin]
    exact joinPieces_pair hbeyond before _

theorem Spells.of_char {c : Char} (h : Chunk s (.char c)) : Spells s [c] := by
  cases h with
  | plain hquote hbackslash hcontrol => exact .plain hquote hbackslash hcontrol .nil
  | escape hc => exact .escape hc .nil

theorem HexDigits.lt {digits : List Char} {n : ℕ} (h : HexDigits digits n) :
    n < Nat.pow 16 digits.length := by
  induction h with
  | nil => exact Nat.one_pos
  | @snoc digits value digit c _ hc ih =>
    have hpow : Nat.pow 16 (digits.length + 1) = Nat.pow 16 digits.length * 16 := rfl
    rw [List.length_append, List.length_singleton, hpow]
    have hdigit : digit < 16 := hc.1
    omega

theorem UnitEscape.lt {n : ℕ} (h : UnitEscape s n) : n < 0x10000 := by
  obtain ⟨digits, -, hlength, hdigits⟩ := h
  have hlt := hdigits.lt
  rwa [hlength] at hlt

theorem toNat_ofNat_of_isValidChar {n : ℕ} (h : n.isValidChar) : (Char.ofNat n).toNat = n := by
  rw [Char.ofNat, dif_pos h]
  rfl

/-- A unit that is not half of a pair is a character. -/
theorem Spells.of_unit {n : ℕ} (h : UnitEscape s n) (hlow : isLowSurrogate n = false)
    (hhigh : isHighSurrogate n = false) : Spells s [Char.ofNat n] := by
  have hlt := h.lt
  simp only [isLowSurrogate, isHighSurrogate, decide_eq_false_iff_not] at hlow hhigh
  have hvalid : n.isValidChar := by
    rw [Nat.isValidChar]
    omega
  have hback : (Char.ofNat n).toNat = n := toNat_ofNat_of_isValidChar hvalid
  rw [← List.append_nil s]
  exact .unit (hback.symm ▸ h) .nil

/-- So are two halves one after the other. -/
theorem Spells.of_pair {high low : ℕ} (hs : UnitEscape s high) (ht : UnitEscape t low)
    (hhigh : isHighSurrogate high = true) (hlow : isLowSurrogate low = true) :
    Spells (s ++ t) [Char.ofNat (0x10000 + (high - 0xD800) * 0x400 + (low - 0xDC00))] := by
  simp only [isHighSurrogate, isLowSurrogate, decide_eq_true_eq] at hhigh hlow
  generalize hn : 0x10000 + (high - 0xD800) * 0x400 + (low - 0xDC00) = n
  have hvalid : n.isValidChar := by
    rw [Nat.isValidChar]
    omega
  have hback : (Char.ofNat n).toNat = n := toNat_ofNat_of_isValidChar hvalid
  have hfirst : high = 0xD800 + ((Char.ofNat n).toNat - 0x10000) / 0x400 := by omega
  have hsecond : low = 0xDC00 + ((Char.ofNat n).toNat - 0x10000) % 0x400 := by omega
  rw [hfirst] at hs
  rw [hsecond] at ht
  rw [← List.append_nil t]
  exact .pair (by omega) hs ht .nil

/-- A unit that is no half of a pair spells the character in front of those joined already. -/
theorem Chunks.spells_unit {n : ℕ} {chars joined : List Char} (h : Chunks s (.unit n :: read))
    (hlow : isLowSurrogate n = false) (hhigh : isHighSurrogate n = false)
    (hrest : ∀ {s}, Chunks s read → ∃ t, joined = t ++ Char.ofNat n :: chars ∧ Spells s t) :
    ∃ t, joined = t ++ chars ∧ Spells s t := by
  cases h with
  | snoc h hn =>
    cases hn with
    | unit hn =>
      obtain ⟨t, rfl, ht⟩ := hrest h
      exact ⟨t ++ [_], by simp, ht.append (.of_unit hn hlow hhigh)⟩

/-- Pieces that join to some characters are a spelling of these. -/
theorem Chunks.spells {chars joined : List Char} (h : Chunks s read)
    (hjoin : joinPieces read chars = some joined) : ∃ t, joined = t ++ chars ∧ Spells s t := by
  -- The pieces come with the latest first, so each case takes the end of the spelling off.
  induction read, chars using joinPieces.induct generalizing s with
  | case1 chars =>
    cases h
    cases hjoin
    exact ⟨[], rfl, .nil⟩
  | case2 c rest chars ih =>
    cases h with
    | snoc h hc =>
      obtain ⟨t, rfl, ht⟩ := ih h hjoin
      exact ⟨t ++ [c], by simp, ht.append (.of_char hc)⟩
  | case3 low high rest chars hlow hhigh ih =>
    rw [joinPieces, if_pos hlow, if_pos hhigh] at hjoin
    cases h with
    | snoc h hsecond =>
      cases hsecond with
      | unit hsecond =>
        cases h with
        | snoc h hfirst =>
          cases hfirst with
          | unit hfirst =>
            obtain ⟨t, rfl, ht⟩ := ih h hjoin
            have hpair := Spells.of_pair hfirst hsecond hhigh hlow
            rw [List.append_assoc]
            exact ⟨t ++ [_], by simp, ht.append hpair⟩
  | case4 low high rest chars hlow hhigh =>
    rw [joinPieces, if_pos hlow, if_neg hhigh] at hjoin
    cases hjoin
  | case5 low high rest chars hlow hhigh =>
    rw [joinPieces, if_neg hlow, if_pos hhigh] at hjoin
    cases hjoin
  | case6 low high rest chars hlow hhigh ih =>
    rw [joinPieces, if_neg hlow, if_neg hhigh] at hjoin
    exact h.spells_unit (Bool.eq_false_iff.mpr hlow) (Bool.eq_false_iff.mpr hhigh)
      fun hrest => ih hrest hjoin
  | case7 n rest chars hlone hsurrogate =>
    rw [joinPieces, if_pos hsurrogate] at hjoin
    · cases hjoin
    · exact hlone
  | case8 n rest chars hlone hsurrogate ih =>
    rw [joinPieces, if_neg hsurrogate] at hjoin
    · rw [Bool.or_eq_true, not_or] at hsurrogate
      exact h.spells_unit (Bool.eq_false_iff.mpr hsurrogate.1)
        (Bool.eq_false_iff.mpr hsurrogate.2) fun hrest => ih hrest hjoin
    · exact hlone

/-- The content of a literal is what stands between its quotes spells, or nothing if that consists
of pieces and spells nothing. -/
def Content (s : List Char) : StringLiteral → Prop
  | some text => Spells s text.toList
  | none => (∃ read, Chunks s read) ∧ ∀ t, ¬Spells s t

theorem Chunks.joinPieces_eq_some_iff (h : Chunks s read) :
    joinPieces read [] = some t ↔ Spells s t := by
  constructor
  · intro hjoin
    obtain ⟨t', rfl, ht⟩ := h.spells hjoin
    rwa [List.append_nil]
  · intro ht
    obtain ⟨other, hother, hjoin⟩ := ht.chunks
    have hall := hjoin [] []
    rw [List.append_nil, List.append_nil] at hall
    rw [h.unique hother, hall, joinPieces]

theorem content_iff {content : StringLiteral} :
    Content s content ↔ ∃ read, Chunks s read ∧ literalOfPieces read = content := by
  cases content with
  | some text =>
    simp only [literalOfPieces, Option.map_eq_some_iff]
    constructor
    · intro ht
      obtain ⟨read, hread, -⟩ := Spells.chunks ht
      exact ⟨read, hread, _, hread.joinPieces_eq_some_iff.mpr ht, String.ofList_toList⟩
    · rintro ⟨read, hread, t, hjoin, rfl⟩
      rw [Content, String.toList_ofList]
      exact hread.joinPieces_eq_some_iff.mp hjoin
  | none =>
    simp only [literalOfPieces, Option.map_eq_none_iff]
    constructor
    · rintro ⟨⟨read, hread⟩, hnone⟩
      refine ⟨read, hread, Option.eq_none_iff_forall_ne_some.mpr fun t ht => ?_⟩
      exact hnone t (hread.joinPieces_eq_some_iff.mp ht)
    · rintro ⟨read, hread, hnone⟩
      refine ⟨⟨read, hread⟩, fun t ht => ?_⟩
      rw [hread.joinPieces_eq_some_iff.mpr ht] at hnone
      cases hnone

end Strings

section Numbers

open LightningDeposit.NumberLiteral LightningDeposit.Json.NumberLiteral

/-- The sign of an exponent. -/
inductive ExponentSign : List Char → Bool → Prop
  | none : ExponentSign [] false
  | plus : ExponentSign ['+'] false
  | minus : ExponentSign ['-'] true

/-- The exponent of a number with its letter, or nothing. -/
inductive SpellsExponent : List Char → Option (Bool × List Char) → Prop
  | absent : SpellsExponent [] none
  | present {letter : Char} {sign digits : List Char} {negative : Bool}
    (hletter : letter = 'e' ∨ letter = 'E') (hsign : ExponentSign sign negative) :
    SpellsExponent (letter :: (sign ++ digits)) (some (negative, digits))

def writtenPlaces : Option (List Char) → List Char
  | none => []
  | some places => '.' :: places

/-- The characters of a number after its sign. -/
structure SpellsUnsigned (s : List Char) (n : NumberLiteral) : Prop where
  wellFormed : n.WellFormed
  parts : ∃ exponent, SpellsExponent exponent n.exponent ∧
    s = n.whole ++ (writtenPlaces n.places ++ exponent)

/-- The characters of a number. -/
def SpellsNumber (s : List Char) (n : NumberLiteral) : Prop :=
  ∃ rest, s = (if n.negative then ['-'] else []) ++ rest ∧ SpellsUnsigned rest n

variable {s digits : List Char} {n : NumberLiteral}

theorem isDigits_iff : IsDigits digits ↔ digits ≠ [] ∧ digits.all Char.isDigit = true := by
  rw [IsDigits, List.all_eq_true]

theorem IsDigits.head_isDigit {c : Char} {rest : List Char} (h : IsDigits (c :: rest)) :
    c.isDigit = true :=
  h.2 c List.mem_cons_self

theorem exponent?_eq_some_iff {negative : Bool} : exponent? s = some (negative, digits) ↔
    ∃ sign, ExponentSign sign negative ∧ s = sign ++ digits ∧ IsDigits digits := by
  constructor
  · intro h
    unfold exponent? at h
    split at h <;> obtain ⟨hdigits, heq⟩ := Option.ite_none_right_eq_some.mp h <;> cases heq
    next => exact ⟨['-'], .minus, rfl, isDigits_iff.mpr hdigits⟩
    next => exact ⟨['+'], .plus, rfl, isDigits_iff.mpr hdigits⟩
    next => exact ⟨[], .none, rfl, isDigits_iff.mpr hdigits⟩
  · rintro ⟨sign, hsign, rfl, hdigits⟩
    have hread : digits ≠ [] ∧ digits.all Char.isDigit = true := isDigits_iff.mp hdigits
    cases hsign with
    | none =>
      obtain ⟨c, rest, rfl⟩ := List.exists_cons_of_ne_nil hread.1
      have hc := IsDigits.head_isDigit hdigits
      rw [List.nil_append]
      unfold exponent?
      split
      next heq =>
        cases heq
        cases hc
      next heq =>
        cases heq
        cases hc
      next => exact if_pos hread
    | plus => exact if_pos hread
    | minus => exact if_pos hread

theorem tail?_eq_some_iff {negative : Bool} {whole : List Char} {places : Option (List Char)} :
    tail? negative whole places s = some n ↔ ∃ exponent, n = ⟨negative, whole, places, exponent⟩ ∧
      SpellsExponent s exponent ∧ ∀ e ∈ exponent, IsDigits e.2 := by
  constructor
  · intro h
    cases s with
    | nil =>
      cases h
      exact ⟨none, rfl, .absent, fun _ he => by cases he⟩
    | cons letter rest =>
      rw [tail?, Option.ite_none_right_eq_some, Option.map_eq_some_iff] at h
      obtain ⟨hletter, ⟨negative', digits⟩, hexponent, rfl⟩ := h
      obtain ⟨sign, hsign, rfl, hdigits⟩ := exponent?_eq_some_iff.mp hexponent
      refine ⟨_, rfl, .present hletter hsign, ?_⟩
      rintro _ ⟨⟩
      exact hdigits
  · rintro ⟨exponent, rfl, hspells, hdigits⟩
    cases hspells with
    | absent => rfl
    | present hletter hsign =>
      have hexponent := exponent?_eq_some_iff.mpr ⟨_, hsign, rfl, hdigits _ rfl⟩
      rw [tail?, if_pos hletter, hexponent]
      rfl

/-- Digits end before anything else. -/
theorem takeWhile_digits {rest : List Char} (h : ∀ c ∈ digits, c.isDigit = true)
    (hrest : ∀ c ∈ rest.head?, c.isDigit = false) :
    (digits ++ rest).takeWhile Char.isDigit = digits ∧
      (digits ++ rest).dropWhile Char.isDigit = rest := by
  induction digits with
  | nil =>
    cases rest with
    | nil => simp
    | cons c rest => simp [hrest c rfl]
  | cons d digits ih =>
    have hd := h d List.mem_cons_self
    obtain ⟨htake, hdrop⟩ := ih fun c hc => h c (List.mem_cons_of_mem _ hc)
    simp [hd, htake, hdrop]

theorem SpellsExponent.head_not_digit {exponent : Option (Bool × List Char)}
    (h : SpellsExponent s exponent) : ∀ c ∈ s.head?, c.isDigit = false ∧ c ≠ '.' := by
  cases h with
  | absent => simp
  | present hletter _ =>
    rintro _ ⟨⟩
    rcases hletter with rfl | rfl <;> decide

theorem unsigned?_eq_some_iff {negative : Bool} :
    unsigned? negative s = some n ↔ n.negative = negative ∧ SpellsUnsigned s n := by
  constructor
  · intro h
    have hs : s = s.takeWhile Char.isDigit ++ s.dropWhile Char.isDigit :=
      List.takeWhile_append_dropWhile.symm
    simp only [unsigned?] at h
    rw [Option.ite_none_left_eq_some, not_or, not_and_not_right] at h
    obtain ⟨⟨hne, hzero⟩, h⟩ := h
    have hwhole : IsDigits (s.takeWhile Char.isDigit) :=
      ⟨hne, fun c hc => List.mem_takeWhile_imp hc⟩
    generalize s.takeWhile Char.isDigit = whole at hs hzero hwhole h
    split at h
    next after hdrop =>
      have hafter : after = after.takeWhile Char.isDigit ++ after.dropWhile Char.isDigit :=
        List.takeWhile_append_dropWhile.symm
      rw [Option.ite_none_left_eq_some] at h
      obtain ⟨hplaces, htail⟩ := h
      obtain ⟨exponent, rfl, hspells, hdigits⟩ := tail?_eq_some_iff.mp htail
      refine ⟨rfl, ⟨hwhole, hzero, ?_, hdigits⟩, _, hspells, ?_⟩
      · rintro _ ⟨⟩
        exact ⟨hplaces, fun c hc => List.mem_takeWhile_imp hc⟩
      · rw [writtenPlaces, List.cons_append, ← hafter, ← hdrop]
        exact hs
    next =>
      obtain ⟨exponent, rfl, hspells, hdigits⟩ := tail?_eq_some_iff.mp h
      exact ⟨rfl, ⟨hwhole, hzero, (fun _ h => by cases h), hdigits⟩, _, hspells, hs⟩
  · rintro ⟨rfl, ⟨⟨hne, hwhole⟩, hzero, hplaces, hexponent⟩, exponent, hspells, rfl⟩
    obtain ⟨negative, whole, places, e⟩ := n
    have hend : ∀ c ∈ exponent.head?, c.isDigit = false :=
      fun c hc => (hspells.head_not_digit c hc).1
    have hrest : ∀ c ∈ (writtenPlaces places ++ exponent).head?, c.isDigit = false := by
      cases places with
      | none => exact hend
      | some places =>
        rintro _ ⟨⟩
        rfl
    obtain ⟨htake, hdrop⟩ := takeWhile_digits hwhole hrest
    have hlead : ¬(whole = [] ∨ whole.head? = some '0' ∧ whole ≠ ['0']) := by
      rintro (h | ⟨hhead, hlong⟩)
      · exact hne h
      · exact hlong (hzero hhead)
    simp only [unsigned?, htake, hdrop]
    rw [if_neg hlead]
    have htail (places : Option (List Char)) :
        tail? negative whole places exponent = some ⟨negative, whole, places, e⟩ :=
      tail?_eq_some_iff.mpr ⟨e, rfl, hspells, hexponent⟩
    cases places with
    | none =>
      rw [writtenPlaces, List.nil_append]
      split
      next after =>
        exact absurd rfl (hspells.head_not_digit '.' rfl).2
      next => exact htail none
    | some places =>
      obtain ⟨hpne, hpdigits⟩ := hplaces places rfl
      obtain ⟨hptake, hpdrop⟩ := takeWhile_digits hpdigits hend
      simp only [writtenPlaces, List.cons_append, hptake, hpdrop]
      rw [if_neg hpne]
      exact htail (some places)

theorem SpellsUnsigned.head_isDigit (h : SpellsUnsigned s n) :
    ∃ c rest, s = c :: rest ∧ c.isDigit = true := by
  obtain ⟨hn, exponent, -, rfl⟩ := h
  obtain ⟨c, rest, hwhole⟩ := List.exists_cons_of_ne_nil hn.whole.1
  exact ⟨c, _, by rw [hwhole]; rfl, hn.whole.2 c (hwhole ▸ List.mem_cons_self)⟩

/-- Numbers are read out of the characters that spell one. -/
theorem ofChars?_eq_some_iff : ofChars? s = some n ↔ SpellsNumber s n := by
  constructor
  · intro h
    unfold ofChars? at h
    split at h
    next rest =>
      obtain ⟨hsign, hrest⟩ := unsigned?_eq_some_iff.mp h
      exact ⟨rest, by rw [hsign]; rfl, hrest⟩
    next =>
      obtain ⟨hsign, hrest⟩ := unsigned?_eq_some_iff.mp h
      exact ⟨s, by rw [hsign]; rfl, hrest⟩
  · rintro ⟨rest, rfl, hrest⟩
    have hread := unsigned?_eq_some_iff.mpr ⟨rfl, hrest⟩
    cases hsign : n.negative with
    | true =>
      rw [hsign] at hread
      exact hread
    | false =>
      rw [hsign] at hread
      obtain ⟨c, digits, rfl, hc⟩ := hrest.head_isDigit
      unfold ofChars?
      split
      next heq =>
        cases heq
        cases hc
      next => exact hread

theorem isNumberChar_of_isDigit {c : Char} (h : c.isDigit = true) : isNumberChar c = true := by
  simp [isNumberChar, h]

theorem SpellsExponent.isNumberChar {exponent : Option (Bool × List Char)}
    (h : SpellsExponent s exponent) (hdigits : ∀ e ∈ exponent, IsDigits e.2) :
    ∀ c ∈ s, isNumberChar c = true := by
  cases h with
  | absent => simp
  | present hletter hsign =>
    obtain ⟨-, hdigits⟩ := hdigits _ rfl
    intro c hc
    rw [List.mem_cons, List.mem_append] at hc
    rcases hc with rfl | hc | hc
    · rcases hletter with rfl | rfl <;> rfl
    · cases hsign with
      | none => cases hc
      | plus =>
        rw [List.mem_singleton.mp hc]
        rfl
      | minus =>
        rw [List.mem_singleton.mp hc]
        rfl
    · exact isNumberChar_of_isDigit (hdigits c hc)

theorem SpellsUnsigned.isNumberChar (h : SpellsUnsigned s n) : ∀ c ∈ s, isNumberChar c = true := by
  obtain ⟨⟨⟨-, hwhole⟩, -, hplaces, hexponent⟩, exponent, hspells, rfl⟩ := h
  intro c hc
  rw [List.mem_append, List.mem_append] at hc
  rcases hc with hc | hc | hc
  · exact isNumberChar_of_isDigit (hwhole c hc)
  · cases hp : n.places with
    | none => simp [hp, writtenPlaces] at hc
    | some places =>
      rw [hp, writtenPlaces, List.mem_cons] at hc
      rcases hc with rfl | hc
      · rfl
      · exact isNumberChar_of_isDigit ((hplaces places hp).2 c hc)
  · exact hspells.isNumberChar hexponent c hc

theorem step_digit {c : Char} (h : c.isDigit = true) :
    Lexer.step ⟨tokens, .between⟩ c = some ⟨tokens, .number [c]⟩ := by
  have hne (d : Char) (hd : d.isDigit = false) : c ≠ d := by
    rintro rfl
    rw [h] at hd
    cases hd
  simp [Lexer.step, Lexer.start, isSpace, h, hne ' ' rfl, hne '\t' rfl, hne '\n' rfl, hne '\r' rfl,
    hne '[' rfl, hne ']' rfl, hne '{' rfl, hne '}' rfl, hne ':' rfl, hne ',' rfl, hne '"' rfl]

theorem lex_numberChars (read : List Char) (h : ∀ c ∈ s, isNumberChar c = true) :
    lex ⟨tokens, .number read⟩ s = some ⟨tokens, .number (s.reverse ++ read)⟩ := by
  induction s generalizing read with
  | nil => rfl
  | cons c rest ih =>
    have hstep : Lexer.step ⟨tokens, .number read⟩ c = some ⟨tokens, .number (c :: read)⟩ := by
      simp [Lexer.step, h c List.mem_cons_self]
    rw [lex_cons, hstep, Option.bind_some, ih _ fun d hd => h d (List.mem_cons_of_mem _ hd)]
    simp

/-- A number is under way until something comes that it cannot hold. -/
theorem lex_number (h : SpellsNumber s n) :
    lex ⟨tokens, .between⟩ s = some ⟨tokens, .number s.reverse⟩ := by
  obtain ⟨rest, rfl, hrest⟩ := h
  have hchars := hrest.isNumberChar
  cases n.negative with
  | true =>
    have hminus : Lexer.step ⟨tokens, .between⟩ '-' = some ⟨tokens, .number ['-']⟩ := rfl
    rw [if_pos rfl, List.singleton_append, lex_cons, hminus, Option.bind_some,
      lex_numberChars _ hchars, List.reverse_cons]
  | false =>
    obtain ⟨c, digits, rfl, hc⟩ := hrest.head_isDigit
    rw [if_neg Bool.false_ne_true, List.nil_append, lex_cons, step_digit hc, Option.bind_some,
      lex_numberChars _ fun d hd => hchars d (List.mem_cons_of_mem _ hd), List.reverse_cons]

end Numbers

end Json

end LightningDeposit
