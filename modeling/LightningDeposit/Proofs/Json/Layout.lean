import LightningDeposit.Proofs.Json.RoundTrip
import Mathlib.Data.List.Forall2

/-!
Texts of JSON made of other texts. An object stands in a text as the texts of its members with
commas between them and braces around, an array as the texts of its items, with white space wherever
there is any; every text of an object is laid out like this, so members can be put into it and moved
about in it without a look at what they spell.
-/

namespace LightningDeposit.Json

section Pieces

variable {s t : List Char} {ts us : List Token}

theorem Spelled.after_spaces {spaces : List Char} (hspaces : ∀ c ∈ spaces, isSpace c = true)
    (h : Spelled s ts) : Spelled (spaces ++ s) ts := by
  induction spaces with
  | nil => exact h
  | cons c rest ih =>
    apply Spelled.space (hspaces c List.mem_cons_self)
    exact ih fun d hd => hspaces d (List.mem_cons_of_mem _ hd)

theorem spaces_of_spelled_nil (h : Spelled s []) : ∀ c ∈ s, isSpace c = true := by
  generalize hts : ([] : List Token) = all at h
  induction h with
  | nil => simp
  | space hc _ ih => exact List.forall_mem_cons.mpr ⟨hc, ih hts⟩
  | mark _ _ _ => cases hts
  | string _ _ _ => cases hts
  | word _ _ _ _ => cases hts
  | number _ _ _ _ => cases hts

theorem head?_append_of_head? {p : Char → Prop} (hs : ∀ c ∈ s.head?, p c)
    (ht : ∀ c ∈ t.head?, p c) : ∀ c ∈ (s ++ t).head?, p c := by
  cases s with
  | nil => exact ht
  | cons d rest => exact hs

/-- One text may follow another if it begins with what no word and no number can hold. -/
theorem Spelled.append (hs : Spelled s ts) (ht : Spelled t us)
    (hend : ∀ c ∈ t.head?, IsDelimiter c) : Spelled (s ++ t) (ts ++ us) := by
  have hlower : ∀ c ∈ t.head?, c.isLower = false := fun c hc => (hend c hc).1
  have hnumber : ∀ c ∈ t.head?, isNumberChar c = false := fun c hc => (hend c hc).2
  induction hs with
  | nil => exact ht
  | space hc _ ih => exact ih.space hc
  | mark hc _ ih => exact ih.mark hc
  | string hbody _ ih => simpa using ih.string hbody
  | word hw hnext _ ih => simpa using ih.word hw (head?_append_of_head? hnext hlower)
  | number hn hnext _ ih => simpa using ih.number hn (head?_append_of_head? hnext hnumber)

theorem Mark.eq {c d : Char} {token : Token} (hc : Mark c token) (hd : Mark d token) : c = d := by
  cases hc <;> cases hd <;> rfl

theorem Mark.ne_scalar {c : Char} {token : Token} (hc : Mark c token) (v : Json) :
    token ≠ .scalar v := by
  cases hc <;> nofun

/-- What is true of the first character of a text is true of the first of any part it begins with.
-/
theorem head?_of_append {p : Char → Prop} (h : ∀ c ∈ (s ++ t).head?, p c) :
    ∀ c ∈ s.head?, p c := by
  cases s with
  | nil => simp
  | cons d rest => exact h

/-- A text can be cut at each of its marks. -/
theorem Spelled.cut {c : Char} {token : Token} (hc : Mark c token)
    (h : Spelled s (ts ++ token :: us)) :
    ∃ a b, s = a ++ c :: b ∧ Spelled a ts ∧ Spelled b us := by
  -- On the text: what comes before the mark keeps its end, since nothing new stands behind it.
  generalize hall : ts ++ token :: us = all at h
  induction h generalizing ts with
  | nil => simp at hall
  | @space d s all hd hs ih =>
    obtain ⟨a, b, rfl, ha, hb⟩ := ih hall
    exact ⟨d :: a, b, rfl, ha.space hd, hb⟩
  | @mark d first s all hd hs ih =>
    cases ts with
    | nil =>
      obtain ⟨rfl, rfl⟩ := List.cons.inj hall
      obtain rfl := hc.eq hd
      exact ⟨[], s, rfl, .nil, hs⟩
    | cons first' ts =>
      obtain ⟨rfl, hrest⟩ := List.cons.inj hall
      obtain ⟨a, b, rfl, ha, hb⟩ := ih hrest
      exact ⟨d :: a, b, rfl, ha.mark hd, hb⟩
  | @string body s content all hbody hs ih =>
    cases ts with
    | nil => exact absurd (List.cons.inj hall).1 (hc.ne_scalar _)
    | cons first ts =>
      obtain ⟨rfl, hrest⟩ := List.cons.inj hall
      obtain ⟨a, b, rfl, ha, hb⟩ := ih hrest
      exact ⟨'"' :: (body ++ '"' :: a), b, by simp, ha.string hbody, hb⟩
  | @word w s v all hw hend hs ih =>
    cases ts with
    | nil => exact absurd (List.cons.inj hall).1 (hc.ne_scalar _)
    | cons first ts =>
      obtain ⟨rfl, hrest⟩ := List.cons.inj hall
      obtain ⟨a, b, rfl, ha, hb⟩ := ih hrest
      exact ⟨w ++ a, b, by simp, ha.word hw (head?_of_append hend), hb⟩
  | @number digits s n all hn hend hs ih =>
    cases ts with
    | nil => exact absurd (List.cons.inj hall).1 (hc.ne_scalar _)
    | cons first ts =>
      obtain ⟨rfl, hrest⟩ := List.cons.inj hall
      obtain ⟨a, b, rfl, ha, hb⟩ := ih hrest
      exact ⟨digits ++ a, b, by simp, ha.number hn (head?_of_append hend), hb⟩

/-- What is in brackets or in braces, and the white space around them. -/
theorem Spelled.cut_enclosed {c d : Char} {first last : Token} (hc : Mark c first)
    (hd : Mark d last) (h : Spelled s (first :: (ts ++ [last]))) :
    ∃ a content b, s = a ++ c :: (content ++ d :: b) ∧ Spelled a [] ∧ Spelled content ts ∧
      Spelled b [] := by
  rw [← List.nil_append (first :: _)] at h
  obtain ⟨a, rest, rfl, ha, hrest⟩ := Spelled.cut hc h
  obtain ⟨content, b, rfl, hcontent, hb⟩ := Spelled.cut hd hrest
  exact ⟨a, content, b, rfl, ha, hcontent, hb⟩

/-- Texts with commas between them. -/
def separated : List String → String
  | [] => ""
  | [s] => s
  | s :: rest => s ++ "," ++ separated rest

/-- The tokens of such texts. -/
def commaSeparated : List (List Token) → List Token
  | [] => []
  | [ts] => ts
  | ts :: rest => ts ++ .comma :: commaSeparated rest

theorem itemTokens_eq (items : List Json) :
    itemTokens items = commaSeparated (items.map tokensOf) := by
  induction items with
  | nil => rfl
  | cons v rest ih =>
    cases rest with
    | nil => rfl
    | cons next rest =>
      rw [itemTokens_cons_cons, ih]
      rfl

/-- The tokens of a member of an object. -/
def tokensOfMember (m : StringLiteral × Json) : List Token :=
  .scalar (.string m.1) :: .colon :: tokensOf m.2

theorem memberTokens_eq (members : List (StringLiteral × Json)) :
    memberTokens members = commaSeparated (members.map tokensOfMember) := by
  induction members with
  | nil => rfl
  | cons m rest ih =>
    cases rest with
    | nil => rfl
    | cons next rest =>
      rw [memberTokens_cons_cons, ih]
      rfl

theorem spelled_separated {texts : List String} {tokens : List (List Token)}
    (h : List.Forall₂ (fun text ts => Spelled text.toList ts) texts tokens) :
    Spelled (separated texts).toList (commaSeparated tokens) := by
  induction h with
  | nil => exact .nil
  | cons hfirst hrest ih =>
    cases hrest with
    | nil => exact hfirst
    | cons _ _ =>
      have hall := hfirst.append (ih.mark .comma) (isDelimiter_head ⟨rfl, rfl⟩ _)
      simpa [separated, commaSeparated] using hall

/-- A text can be cut at its commas. -/
theorem exists_separated {tokens : List (List Token)} (hne : tokens ≠ [])
    (h : Spelled s (commaSeparated tokens)) : ∃ texts, s = (separated texts).toList ∧
      List.Forall₂ (fun text ts => Spelled text.toList ts) texts tokens := by
  have hlast {s : List Char} {ts : List Token} (h : Spelled s ts) :
      Spelled (String.ofList s).toList ts := by
    rwa [String.toList_ofList]
  induction tokens generalizing s with
  | nil => exact absurd rfl hne
  | cons first rest ih =>
    cases rest with
    | nil => exact ⟨[.ofList s], by simp [separated], .cons (hlast h) .nil⟩
    | cons next rest =>
      obtain ⟨a, b, rfl, ha, hb⟩ := Spelled.cut .comma h
      obtain ⟨texts, rfl, htexts⟩ := ih (List.cons_ne_nil next rest) hb
      refine ⟨.ofList a :: texts, ?_, .cons (hlast ha) htexts⟩
      cases htexts
      simp [separated]

end Pieces

/-- White space, or nothing. -/
abbrev Spaces := { s : String // ∀ c ∈ s.toList, isSpace c = true }

def Spaces.ofSpelled {s : List Char} (h : Spelled s []) : Spaces :=
  ⟨String.ofList s, by
    rw [String.toList_ofList]
    exact spaces_of_spelled_nil h⟩

/-- A text with the value that it spells. -/
@[ext]
structure Written where
  text : String
  value : Json
  isText : IsText text value

/-- A member of an object as it stands in a text: a key and, behind a colon, a value. -/
structure WrittenMember where
  keyText : String
  key : StringLiteral
  isKey : IsText keyText (.string key)
  value : Written

/-- The text that is written of a value. -/
def Written.ofJson (v : Json) (h : v.WellFormed) : Written :=
  ⟨v.write, v, isText_write h⟩

/-- A member whose key is written without escapes that it does not need. -/
def WrittenMember.named (name : String) (value : Written) : WrittenMember :=
  ⟨(text name).write, some name, isText_write trivial, value⟩

namespace WrittenMember

def text (m : WrittenMember) : String := m.keyText ++ ":" ++ m.value.text

def member (m : WrittenMember) : StringLiteral × Json := (m.key, m.value.value)

theorem spelled_text (m : WrittenMember) : Spelled m.text.toList (tokensOfMember m.member) := by
  have hvalue : Spelled (':' :: m.value.text.toList) (.colon :: tokensOf m.value.value) :=
    m.value.isText.mark .colon
  have hall := m.isKey.append hvalue (isDelimiter_head ⟨rfl, rfl⟩ _)
  simpa [text, tokensOf, tokensOfMember, member] using hall

theorem exists_of_spelled {s : String} {m : StringLiteral × Json}
    (h : Spelled s.toList (tokensOfMember m)) :
    ∃ written : WrittenMember, written.text = s ∧ written.member = m := by
  obtain ⟨key, v⟩ := m
  rw [tokensOfMember, ← List.singleton_append] at h
  obtain ⟨a, b, hcut, ha, hb⟩ := Spelled.cut .colon h
  refine ⟨⟨String.ofList a, key, ?_, ⟨String.ofList b, v, ?_⟩⟩, ?_, rfl⟩
  · rwa [IsText, String.toList_ofList]
  · rwa [IsText, String.toList_ofList]
  · rw [← String.toList_inj, hcut]
    simp [text]

end WrittenMember

namespace Written

/-- What is in brackets or in braces, with white space inside and around. -/
def enclosed (before inside after : Spaces) (first last content : String) : String :=
  before.1 ++ first ++ inside.1 ++ content ++ last ++ after.1

theorem spelled_enclosed (before inside after : Spaces) {c d : Char} {first last : Token}
    (hc : Mark c first) (hd : Mark d last) (hdelimiter : IsDelimiter d) {content : String}
    {ts : List Token} (h : Spelled content.toList ts) :
    Spelled (enclosed before inside after (.singleton c) (.singleton d) content).toList
      (first :: (ts ++ [last])) := by
  have hafter : Spelled after.1.toList [] := by
    simpa using Spelled.after_spaces after.2 .nil
  have hcontent := h.append (hafter.mark hd) (isDelimiter_head hdelimiter _)
  have hall := Spelled.after_spaces before.2 ((Spelled.after_spaces inside.2 hcontent).mark hc)
  simpa [enclosed] using hall

/-- An object with these members. -/
def object (before inside after : Spaces) (members : List WrittenMember) : Written where
  text := enclosed before inside after "\x7b" "\x7d"
    (separated (members.map WrittenMember.text))
  value := .object (members.map WrittenMember.member)
  isText := by
    apply spelled_enclosed before inside after .objectStart .objectEnd ⟨rfl, rfl⟩
    rw [memberTokens_eq, List.map_map]
    apply spelled_separated
    simp [List.forall₂_map_left_iff, List.forall₂_map_right_iff, List.forall₂_same,
      WrittenMember.spelled_text]

/-- An array with these items. -/
def array (before inside after : Spaces) (items : List Written) : Written where
  text := enclosed before inside after "[" "]" (separated (items.map text))
  value := .array (items.map value)
  isText := by
    apply spelled_enclosed before inside after .arrayStart .arrayEnd ⟨rfl, rfl⟩
    rw [itemTokens_eq, List.map_map]
    apply spelled_separated
    simpa [List.forall₂_map_left_iff, List.forall₂_map_right_iff, List.forall₂_same]
      using fun t _ => t.isText

/-- Where there is nothing in brackets, the white space is all inside them. -/
theorem exists_enclosed {t : Written} {c d : Char} {first last : Token}
    {tokens : List (List Token)} (hc : Mark c first) (hd : Mark d last)
    (h : tokensOf t.value = first :: (commaSeparated tokens ++ [last])) :
    ∃ before inside after texts,
      t.text = enclosed before inside after (.singleton c) (.singleton d) (separated texts) ∧
        List.Forall₂ (fun text ts => Spelled text.toList ts) texts tokens := by
  have htext := t.isText
  rw [IsText, h] at htext
  obtain ⟨a, content, b, hcut, ha, hcontent, hb⟩ := htext.cut_enclosed hc hd
  have hlaid (inside : Spaces) (texts : List String)
      (heq : content = inside.1.toList ++ (separated texts).toList) :
      t.text = enclosed (.ofSpelled ha) inside (.ofSpelled hb) (.singleton c) (.singleton d)
        (separated texts) := by
    rw [← String.toList_inj, hcut, heq]
    simp [enclosed, Spaces.ofSpelled]
  by_cases hne : tokens = []
  · subst hne
    exact ⟨_, .ofSpelled hcontent, _, [], hlaid _ _ (by simp [Spaces.ofSpelled, separated]), .nil⟩
  · obtain ⟨texts, hcommas, htexts⟩ := exists_separated hne hcontent
    exact ⟨_, ⟨"", by simp⟩, _, texts, hlaid _ _ (by simpa using hcommas), htexts⟩

theorem exists_map_eq {α β γ : Type} {R : α → β → Prop} {f : γ → α} {g : γ → β} {as : List α}
    {bs : List β} (hR : ∀ a b, R a b → ∃ c, f c = a ∧ g c = b) (h : List.Forall₂ R as bs) :
    ∃ cs : List γ, cs.map f = as ∧ cs.map g = bs := by
  induction h with
  | nil => exact ⟨[], rfl, rfl⟩
  | cons hab _ ih =>
    obtain ⟨c, rfl, rfl⟩ := hR _ _ hab
    obtain ⟨cs, rfl, rfl⟩ := ih
    exact ⟨c :: cs, rfl, rfl⟩

/-- Every object in a text is laid out in members. -/
theorem exists_object {t : Written} {members : List (StringLiteral × Json)}
    (h : t.value = .object members) :
    ∃ before inside after written, t = object before inside after written := by
  have htokens := congrArg tokensOf h
  rw [tokensOf, memberTokens_eq] at htokens
  obtain ⟨before, inside, after, texts, htext, htexts⟩ :=
    exists_enclosed .objectStart .objectEnd htokens
  rw [List.forall₂_map_right_iff] at htexts
  obtain ⟨written, rfl, rfl⟩ :=
    exists_map_eq (fun _ _ hs => WrittenMember.exists_of_spelled hs) htexts
  exact ⟨before, inside, after, written, Written.ext htext h⟩

/-- Every array in a text is laid out in items. -/
theorem exists_array {t : Written} {items : List Json} (h : t.value = .array items) :
    ∃ before inside after written, t = array before inside after written := by
  have htokens := congrArg tokensOf h
  rw [tokensOf, itemTokens_eq] at htokens
  obtain ⟨before, inside, after, texts, htext, htexts⟩ :=
    exists_enclosed .arrayStart .arrayEnd htokens
  rw [List.forall₂_map_right_iff] at htexts
  have hitem (s : String) (v : Json) (hs : IsText s v) : ∃ t : Written, t.text = s ∧ t.value = v :=
    ⟨⟨s, v, hs⟩, rfl, rfl⟩
  obtain ⟨written, rfl, rfl⟩ := exists_map_eq hitem htexts
  exact ⟨before, inside, after, written, Written.ext htext h⟩

end Written

end LightningDeposit.Json
