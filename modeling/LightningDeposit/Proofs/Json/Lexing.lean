import LightningDeposit.Proofs.Json.Spelling

/-!
The tokens of a text. They stand in it one after another, each in one of its spellings, with any
white space around them. What is read character by character is spelled by the characters read, at
every state; so a text has the tokens that it consists of, and those only.
-/

namespace LightningDeposit.Json

/-- A bracket or a separator. -/
inductive Mark : Char → Token → Prop
  | arrayStart : Mark '[' .arrayStart
  | arrayEnd : Mark ']' .arrayEnd
  | objectStart : Mark '{' .objectStart
  | objectEnd : Mark '}' .objectEnd
  | colon : Mark ':' .colon
  | comma : Mark ',' .comma

/-- A value that is a word. -/
inductive Word : List Char → Json → Prop
  | null : Word "null".toList .null
  | true : Word "true".toList (.bool true)
  | false : Word "false".toList (.bool false)

/-- The text consists of these tokens, with white space before, between and after them. A word or a
number goes as far as it can. -/
inductive Spelled : List Char → List Token → Prop
  | nil : Spelled [] []
  | space {c : Char} {s : List Char} {ts : List Token} (hc : isSpace c = true) (h : Spelled s ts) :
    Spelled (c :: s) ts
  | mark {c : Char} {token : Token} {s : List Char} {ts : List Token} (hc : Mark c token)
    (h : Spelled s ts) : Spelled (c :: s) (token :: ts)
  | string {body s : List Char} {content : StringLiteral} {ts : List Token}
    (hbody : Content body content) (h : Spelled s ts) :
    Spelled ('"' :: (body ++ '"' :: s)) (.scalar (.string content) :: ts)
  | word {w s : List Char} {v : Json} {ts : List Token} (hw : Word w v)
    (hend : ∀ c ∈ s.head?, c.isLower = false) (h : Spelled s ts) :
    Spelled (w ++ s) (.scalar v :: ts)
  | number {digits s : List Char} {n : NumberLiteral} {ts : List Token}
    (hn : SpellsNumber digits n) (hend : ∀ c ∈ s.head?, isNumberChar c = false)
    (h : Spelled s ts) : Spelled (digits ++ s) (.scalar (.number n) :: ts)

/-- What has been read of the token that is under way. -/
inductive Pending : LexMode → List Char → Prop
  | between : Pending .between []
  | word (read : List Char) : Pending (.word read) read.reverse
  | number (read : List Char) : Pending (.number read) read.reverse
  | string {body : List Char} {read : List Piece} (h : Chunks body read) :
    Pending (.string read) ('"' :: body)
  | escape {body : List Char} {read : List Piece} (h : Chunks body read) :
    Pending (.escape read) ('"' :: (body ++ ['\\']))
  | unit {body digits : List Char} {read : List Piece} {due value : ℕ} (h : Chunks body read)
    (hdigits : HexDigits digits value) (hdue : digits.length + due = 4) (hpos : 0 < due) :
    Pending (.unit read due value) ('"' :: (body ++ '\\' :: 'u' :: digits))

variable {s : List Char} {ts before : List Token}

theorem wordValue?_eq_some_iff {v : Json} : wordValue? s = some v ↔ Word s v := by
  constructor
  · intro h
    unfold wordValue? at h
    split_ifs at h with hnull htrue hfalse
    · cases h
      exact hnull ▸ .null
    · cases h
      exact htrue ▸ .true
    · cases h
      exact hfalse ▸ .false
  · intro h
    cases h <;> rfl

/-- A character that cannot go on with a word or a number. -/
def EndsAt : LexMode → Char → Prop
  | .word _, c => c.isLower = false
  | .number _, c => isNumberChar c = false
  | _, _ => True

/-- What is under way ends with the text, or before a character that it cannot hold. -/
theorem Pending.spelled_of_finish {mode : LexMode} {pending : List Char} {final : Lexer}
    (hp : Pending mode pending) (h : Lexer.finish ⟨before, mode⟩ = some final) :
    ∃ done, final = ⟨done.reverse ++ before, .between⟩ ∧ ∀ s ts,
      (∀ c ∈ s.head?, EndsAt mode c) → Spelled s ts → Spelled (pending ++ s) (done ++ ts) := by
  cases hp with
  | between =>
    cases h
    exact ⟨[], rfl, fun s ts _ hs => hs⟩
  | word read =>
    obtain ⟨v, hv, rfl⟩ := Option.map_eq_some_iff.mp h
    exact ⟨[.scalar v], rfl, fun s ts hend hs => hs.word (wordValue?_eq_some_iff.mp hv) hend⟩
  | number read =>
    obtain ⟨n, hn, rfl⟩ := Option.map_eq_some_iff.mp h
    exact ⟨[.scalar (.number n)], rfl,
      fun s ts hend hs => hs.number (ofChars?_eq_some_iff.mp hn) hend⟩
  | string _ => cases h
  | escape _ => cases h
  | unit _ _ _ _ => cases h

/-- A character between tokens is white space or a mark, or begins something. -/
theorem start_cases {lexer next : Lexer} {c : Char} (h : lexer.start c = some next) :
    (isSpace c = true ∧ next = lexer) ∨ (∃ token, Mark c token ∧ next = lexer.push token) ∨
      ∃ mode, Pending mode [c] ∧ next = ⟨lexer.tokens, mode⟩ := by
  revert h
  fun_cases Lexer.start lexer c <;> rintro ⟨⟩
  next hspace => exact .inl ⟨hspace, rfl⟩
  next hc => exact .inr (.inl ⟨_, hc ▸ .arrayStart, rfl⟩)
  next hc => exact .inr (.inl ⟨_, hc ▸ .arrayEnd, rfl⟩)
  next hc => exact .inr (.inl ⟨_, hc ▸ .objectStart, rfl⟩)
  next hc => exact .inr (.inl ⟨_, hc ▸ .objectEnd, rfl⟩)
  next hc => exact .inr (.inl ⟨_, hc ▸ .colon, rfl⟩)
  next hc => exact .inr (.inl ⟨_, hc ▸ .comma, rfl⟩)
  next hc => exact .inr (.inr ⟨_, hc ▸ .string .nil, rfl⟩)
  next => exact .inr (.inr ⟨_, .number [c], rfl⟩)
  next => exact .inr (.inr ⟨_, .word [c], rfl⟩)

/-- A character goes on with what is under way, ends it, or is the quote that closes a string. -/
theorem step_cases {mode : LexMode} {pending : List Char} {next : Lexer} {c : Char}
    (hp : Pending mode pending) (h : Lexer.step ⟨before, mode⟩ c = some next) :
    (∃ later, Pending later (pending ++ [c]) ∧ next = ⟨before, later⟩) ∨
      (EndsAt mode c ∧ ∃ final, Lexer.finish ⟨before, mode⟩ = some final ∧
        final.start c = some next) ∨
      ∃ body content, pending = '"' :: body ∧ c = '"' ∧ Content body content ∧
        next = ⟨.scalar (.string content) :: before, .between⟩ := by
  cases hp with
  | between => exact .inr (.inl ⟨trivial, _, rfl, h⟩)
  | word read =>
    simp only [Lexer.step] at h
    split at h
    next =>
      cases h
      refine .inl ⟨.word (c :: read), ?_, rfl⟩
      rw [← List.reverse_cons]
      exact .word (c :: read)
    next hc => exact .inr (.inl ⟨Bool.eq_false_iff.mpr hc, Option.bind_eq_some_iff.mp h⟩)
  | number read =>
    simp only [Lexer.step] at h
    split at h
    next =>
      cases h
      refine .inl ⟨.number (c :: read), ?_, rfl⟩
      rw [← List.reverse_cons]
      exact .number (c :: read)
    next hc => exact .inr (.inl ⟨Bool.eq_false_iff.mpr hc, Option.bind_eq_some_iff.mp h⟩)
  | @string body read hbody =>
    rw [step_string, Lexer.inString] at h
    split_ifs at h with hquote hbackslash hcontrol <;> cases h
    · exact .inr (.inr ⟨body, _, rfl, hquote, content_iff.mpr ⟨read, hbody, rfl⟩, rfl⟩)
    · exact .inl ⟨_, hbackslash ▸ .escape hbody, rfl⟩
    · exact .inl ⟨_, .string (hbody.snoc (.plain hquote hbackslash (Nat.not_lt.mp hcontrol))), rfl⟩
  | @escape body read hbody =>
    simp only [Lexer.step] at h
    split at h
    next hu =>
      cases h
      refine .inl ⟨.unit read 4 0, ?_, rfl⟩
      have hdue : ([] : List Char).length + 4 = 4 := rfl
      have hpending := Pending.unit hbody .nil hdue (by decide)
      simpa [hu] using hpending
    next =>
      obtain ⟨e, he, rfl⟩ := Option.map_eq_some_iff.mp h
      refine .inl ⟨_, ?_, rfl⟩
      have hpending := Pending.string (hbody.snoc (.escape (escaped?_eq_some_iff.mp he)))
      simpa using hpending
  | @unit body digits read due value hbody hdigits hdue hpos =>
    simp only [Lexer.step] at h
    obtain ⟨digit, hdigit, rfl⟩ := Option.map_eq_some_iff.mp h
    have hmore := hdigits.snoc (hexValue?_eq_some_iff.mp hdigit)
    have hlength : (digits ++ [c]).length = digits.length + 1 := List.length_append
    split
    next hlast =>
      refine .inl ⟨_, ?_, rfl⟩
      have hunit : UnitEscape ('\\' :: 'u' :: (digits ++ [c])) (value * 16 + digit) :=
        ⟨_, rfl, by omega, hmore⟩
      have hpending := Pending.string (hbody.snoc (.unit hunit))
      simpa using hpending
    next hlast =>
      refine .inl ⟨_, ?_, rfl⟩
      have hdue : (digits ++ [c]).length + (due - 1) = 4 := by omega
      have hpending := Pending.unit hbody hmore hdue (by omega)
      simpa using hpending

/-- What is read from a state on is spelled by what is pending there and what comes. -/
theorem spelled_of_lex {mode : LexMode} {pending : List Char} {last final : Lexer}
    (hp : Pending mode pending) (hlex : lex ⟨before, mode⟩ s = some last)
    (hfinish : last.finish = some final) :
    ∃ ts, final = ⟨ts.reverse ++ before, .between⟩ ∧ Spelled (pending ++ s) ts := by
  -- On the text, for every state: a character that ends a token is read once more, between tokens.
  induction s generalizing before mode pending with
  | nil =>
    cases hlex
    obtain ⟨done, rfl, hspelled⟩ := hp.spelled_of_finish hfinish
    have hdone := hspelled [] [] (fun _ hc => by cases hc) .nil
    rw [List.append_nil done] at hdone
    exact ⟨done, rfl, hdone⟩
  | cons c s ih =>
    rw [lex_cons] at hlex
    obtain ⟨next, hstep, hrest⟩ := Option.bind_eq_some_iff.mp hlex
    rcases step_cases hp hstep with ⟨later, hlater, rfl⟩ | ⟨hend, lexer, hlexer, hstart⟩ |
      ⟨body, content, rfl, rfl, hbody, rfl⟩
    · obtain ⟨ts, hts, hspelled⟩ := ih hlater hrest
      rw [List.append_assoc] at hspelled
      exact ⟨ts, hts, hspelled⟩
    · obtain ⟨done, rfl, hdone⟩ := hp.spelled_of_finish hlexer
      have hjoin (ts : List Token) (hts : Spelled (c :: s) ts) :
          Spelled (pending ++ c :: s) (done ++ ts) :=
        hdone _ _ (by rintro _ ⟨⟩; exact hend) hts
      rcases start_cases hstart with ⟨hspace, rfl⟩ | ⟨token, htoken, rfl⟩ | ⟨later, hlater, rfl⟩
      · obtain ⟨ts, rfl, hspelled⟩ := ih .between hrest
        exact ⟨done ++ ts, by simp, hjoin ts (hspelled.space hspace)⟩
      · obtain ⟨ts, rfl, hspelled⟩ := ih .between hrest
        exact ⟨done ++ token :: ts, by simp, hjoin _ (hspelled.mark htoken)⟩
      · obtain ⟨ts, rfl, hspelled⟩ := ih hlater hrest
        exact ⟨done ++ ts, by simp, hjoin ts hspelled⟩
    · obtain ⟨ts, rfl, hspelled⟩ := ih .between hrest
      exact ⟨.scalar (.string content) :: ts, by simp, hspelled.string hbody⟩

/-- What ends with the text, or before what comes, is read like what stands between. -/
theorem step_of_finish {lexer next : Lexer} {c : Char} (h : lexer.finish = some next)
    (hc : EndsAt lexer.mode c) : lexer.step c = next.start c := by
  obtain ⟨tokens, mode⟩ := lexer
  cases mode with
  | between =>
    cases h
    rfl
  | word read =>
    have hlower : c.isLower = false := hc
    simp [Lexer.step, hlower, h]
  | number read =>
    have hnumber : isNumberChar c = false := hc
    simp [Lexer.step, hnumber, h]
  | string read => cases h
  | escape read => cases h
  | unit read due value => cases h

theorem lex_of_finish {lexer : Lexer} {tokens : List Token}
    (h : lexer.finish = some ⟨tokens, .between⟩) (hend : ∀ c ∈ s.head?, EndsAt lexer.mode c) :
    (lex lexer s).bind Lexer.finish = (lex ⟨tokens, .between⟩ s).bind Lexer.finish := by
  cases s with
  | nil => exact h
  | cons c s =>
    rw [lex_cons, lex_cons, step_of_finish h (hend c rfl)]
    rfl

/-- What consists of tokens is read as these. -/
theorem Spelled.lex (h : Spelled s ts) (before : List Token) :
    (Json.lex ⟨before, .between⟩ s).bind Lexer.finish =
      some ⟨ts.reverse ++ before, .between⟩ := by
  induction h generalizing before with
  | nil => rfl
  | @space c s ts hc _ ih =>
    have hstep : Lexer.step ⟨before, .between⟩ c = some ⟨before, .between⟩ := by
      simp [Lexer.step, Lexer.start, hc]
    rw [lex_cons, hstep, Option.bind_some, ih]
  | @mark c token s ts hc _ ih =>
    have hstep : Lexer.step ⟨before, .between⟩ c = some ⟨token :: before, .between⟩ := by
      cases hc <;> rfl
    rw [lex_cons, hstep, Option.bind_some, ih]
    simp
  | @string body s content ts hbody _ ih =>
    obtain ⟨read, hread, rfl⟩ := content_iff.mp hbody
    have hopen : Lexer.step ⟨before, .between⟩ '"' = some ⟨before, .string []⟩ := rfl
    have hclose : Lexer.step ⟨before, .string read⟩ '"' =
        some ⟨.scalar (.string (literalOfPieces read)) :: before, .between⟩ := rfl
    rw [lex_cons, hopen, Option.bind_some, lex_append, lex_chunks hread, Option.bind_some,
      List.append_nil, lex_cons, hclose, Option.bind_some, ih]
    simp
  | @word w s v ts hw hend _ ih =>
    have hread : Json.lex ⟨before, .between⟩ w = some ⟨before, .word w.reverse⟩ := by
      cases hw <;> rfl
    have hfinish : Lexer.finish ⟨before, .word w.reverse⟩ = some ⟨.scalar v :: before, .between⟩ := by
      simp [Lexer.finish, wordValue?_eq_some_iff.mpr hw, Lexer.push]
    rw [lex_append, hread, Option.bind_some, lex_of_finish hfinish hend, ih]
    simp
  | @number digits s n ts hn hend _ ih =>
    have hfinish : Lexer.finish ⟨before, .number digits.reverse⟩ =
        some ⟨.scalar (.number n) :: before, .between⟩ := by
      simp [Lexer.finish, ofChars?_eq_some_iff.mpr hn, Lexer.push]
    rw [lex_append, lex_number hn, Option.bind_some, lex_of_finish hfinish hend, ih]
    simp

/-- The tokens of a text are those that it consists of. -/
theorem tokens?_eq_some_iff : tokens? s = some ts ↔ Spelled s ts := by
  have hread : tokens? s =
      ((lex ⟨[], .between⟩ s).bind Lexer.finish).map fun lexer => lexer.tokens.reverse := by
    simp only [tokens?, lex, Option.bind_eq_bind, Option.pure_def, Option.map_eq_bind,
      Option.bind_assoc, Function.comp_def]
  rw [hread, Option.map_eq_some_iff]
  constructor
  · rintro ⟨final, hfinal, rfl⟩
    obtain ⟨last, hlex, hfinish⟩ := Option.bind_eq_some_iff.mp hfinal
    obtain ⟨ts, rfl, hspelled⟩ := spelled_of_lex .between hlex hfinish
    simpa using hspelled
  · intro h
    exact ⟨_, h.lex [], by simp⟩

end LightningDeposit.Json
