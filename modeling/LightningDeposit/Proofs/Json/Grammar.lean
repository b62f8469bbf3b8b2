import LightningDeposit.Json.Reader
import LightningDeposit.Proofs.Json.Lexing

/-!
Which texts are JSON, and of which value. A value is read out of its tokens and out of no others, so
a text that is read consists of the tokens of what is read, and every text that consists of the
tokens of a value is read as that value.
-/

namespace LightningDeposit.Json

mutual

/-- The tokens of a value. -/
def tokensOf : Json → List Token
  | .array items => .arrayStart :: (itemTokens items ++ [.arrayEnd])
  | .object members => .objectStart :: (memberTokens members ++ [.objectEnd])
  | v => [.scalar v]

def itemTokens : List Json → List Token
  | [] => []
  | [v] => tokensOf v
  | v :: rest => tokensOf v ++ .comma :: itemTokens rest

def memberTokens : List (StringLiteral × Json) → List Token
  | [] => []
  | [(key, v)] => .scalar (.string key) :: .colon :: tokensOf v
  | (key, v) :: rest =>
    .scalar (.string key) :: .colon :: (tokensOf v ++ .comma :: memberTokens rest)

end

theorem itemTokens_cons_cons (v w : Json) (rest : List Json) :
    itemTokens (v :: w :: rest) = tokensOf v ++ .comma :: itemTokens (w :: rest) := rfl

theorem memberTokens_cons_cons (key : StringLiteral) (v : Json) (next : StringLiteral × Json)
    (rest : List (StringLiteral × Json)) :
    memberTokens ((key, v) :: next :: rest) =
      .scalar (.string key) :: .colon :: (tokensOf v ++ .comma :: memberTokens (next :: rest)) :=
  rfl

/-- Reads tokens from a state on. -/
def read (reader : Reader) (tokens : List Token) : Option Reader :=
  tokens.foldlM Reader.step reader

@[simp]
theorem read_nil (reader : Reader) : read reader [] = some reader := rfl

@[simp]
theorem read_cons (reader : Reader) (token : Token) (tokens : List Token) :
    read reader (token :: tokens) = (reader.step token).bind fun next => read next tokens := by
  simp only [read, List.foldlM_cons]
  rfl

theorem read_append (reader : Reader) (s t : List Token) :
    read reader (s ++ t) = (read reader s).bind fun next => read next t := by
  simp only [read, List.foldlM_append]
  rfl

/-- The first item of an array is read like any other value. -/
theorem read_firstItem (v : Json) (rest : List Json) (around : List Frame) :
    read (.firstItem around) (itemTokens (v :: rest)) =
      read (.value (.item [] :: around)) (itemTokens (v :: rest)) := by
  have hfirst : read (.firstItem around) (tokensOf v) =
      read (.value (.item [] :: around)) (tokensOf v) := by
    cases v <;> rfl
  cases rest with
  | nil => exact hfirst
  | cons w rest => rw [itemTokens_cons_cons, read_append, hfirst, ← read_append]

/-- The first key of an object is read like any other. -/
theorem read_firstKey (first : StringLiteral × Json) (rest : List (StringLiteral × Json))
    (around : List Frame) : read (.firstKey around) (memberTokens (first :: rest)) =
      read (.nextKey [] around) (memberTokens (first :: rest)) := by
  cases rest <;> rfl

mutual

theorem read_tokensOf (v : Json) (around : List Frame) :
    read (.value around) (tokensOf v) = some (Reader.fill v around) := by
  match v with
  | .null => rfl
  | .bool b => rfl
  | .number literal => rfl
  | .string content => rfl
  | .array [] => rfl
  | .array (v :: rest) =>
    have hstart : Reader.step (.value around) .arrayStart = some (.firstItem around) := rfl
    have hend (items : List Json) : Reader.step (.afterItem items around) .arrayEnd =
        some (Reader.fill (.array items.reverse) around) := rfl
    rw [tokensOf, read_cons, hstart, Option.bind_some, read_append, read_firstItem,
      read_itemTokens (v :: rest) (List.cons_ne_nil v rest), Option.bind_some, read_cons, hend,
      Option.bind_some, read_nil, List.append_nil, List.reverse_reverse]
  | .object [] => rfl
  | .object (first :: rest) =>
    have hstart : Reader.step (.value around) .objectStart = some (.firstKey around) := rfl
    have hend (members : List (StringLiteral × Json)) :
        Reader.step (.afterMember members around) .objectEnd =
          some (Reader.fill (.object members.reverse) around) := rfl
    rw [tokensOf, read_cons, hstart, Option.bind_some, read_append, read_firstKey,
      read_memberTokens (first :: rest) (List.cons_ne_nil first rest), Option.bind_some, read_cons,
      hend, Option.bind_some, read_nil, List.append_nil, List.reverse_reverse]

theorem read_itemTokens (items : List Json) (hne : items ≠ []) (before : List Json)
    (around : List Frame) : read (.value (.item before :: around)) (itemTokens items) =
      some (.afterItem (items.reverse ++ before) around) := by
  match items with
  | [v] => exact read_tokensOf v (.item before :: around)
  | v :: w :: rest =>
    have hcomma : Reader.step (.afterItem (v :: before) around) .comma =
        some (.value (.item (v :: before) :: around)) := rfl
    rw [itemTokens_cons_cons, read_append, read_tokensOf v, Option.bind_some, Reader.fill,
      read_cons, hcomma, Option.bind_some, read_itemTokens (w :: rest) (List.cons_ne_nil w rest),
      List.reverse_cons (a := v), List.append_assoc, List.singleton_append]

theorem read_memberTokens (members : List (StringLiteral × Json)) (hne : members ≠ [])
    (before : List (StringLiteral × Json)) (around : List Frame) :
    read (.nextKey before around) (memberTokens members) =
      some (.afterMember (members.reverse ++ before) around) := by
  have hkey (key : StringLiteral) : Reader.step (.nextKey before around) (.scalar (.string key)) =
      some (.colon before key around) := rfl
  have hcolon (key : StringLiteral) : Reader.step (.colon before key around) .colon =
      some (.value (.member before key :: around)) := rfl
  match members with
  | [(key, v)] =>
    rw [memberTokens, read_cons, hkey, Option.bind_some, read_cons, hcolon, Option.bind_some,
      read_tokensOf v]
    rfl
  | (key, v) :: next :: rest =>
    have hcomma : Reader.step (.afterMember ((key, v) :: before) around) .comma =
        some (.nextKey ((key, v) :: before) around) := rfl
    rw [memberTokens_cons_cons, read_cons, hkey, Option.bind_some, read_cons, hcolon,
      Option.bind_some, read_append, read_tokensOf v, Option.bind_some, Reader.fill, read_cons,
      hcomma, Option.bind_some, read_memberTokens (next :: rest) (List.cons_ne_nil next rest),
      List.reverse_cons (a := (key, v)), List.append_assoc, List.singleton_append]

end

/-- A token that holds a value holds one without parts. -/
def Token.IsPlain : Token → Prop
  | .scalar v => tokensOf v = [.scalar v]
  | _ => True

/-- The tokens of items that others follow, the latest first. -/
def itemsBefore : List Json → List Token
  | [] => []
  | v :: before => itemsBefore before ++ (tokensOf v ++ [.comma])

def membersBefore : List (StringLiteral × Json) → List Token
  | [] => []
  | (key, v) :: before =>
    membersBefore before ++ (.scalar (.string key) :: .colon :: (tokensOf v ++ [.comma]))

/-- The tokens that open containers begin with. -/
def opened : List Frame → List Token
  | [] => []
  | .item before :: around => opened around ++ .arrayStart :: itemsBefore before
  | .member before key :: around =>
    opened around ++ .objectStart :: (membersBefore before ++ [.scalar (.string key), .colon])

/-- The tokens that have been read up to a state. -/
inductive Taken : Reader → List Token → Prop
  | value (around : List Frame) : Taken (.value around) (opened around)
  | firstItem (around : List Frame) : Taken (.firstItem around) (opened around ++ [.arrayStart])
  | afterItem (v : Json) (before : List Json) (around : List Frame) :
    Taken (.afterItem (v :: before) around)
      (opened around ++ .arrayStart :: (itemsBefore before ++ tokensOf v))
  | firstKey (around : List Frame) : Taken (.firstKey around) (opened around ++ [.objectStart])
  | nextKey (members : List (StringLiteral × Json)) (around : List Frame) :
    Taken (.nextKey members around) (opened around ++ .objectStart :: membersBefore members)
  | colon (members : List (StringLiteral × Json)) (key : StringLiteral) (around : List Frame) :
    Taken (.colon members key around)
      (opened around ++ .objectStart :: (membersBefore members ++ [.scalar (.string key)]))
  | afterMember (key : StringLiteral) (v : Json) (before : List (StringLiteral × Json))
    (around : List Frame) : Taken (.afterMember ((key, v) :: before) around)
      (opened around ++
        .objectStart :: (membersBefore before ++ .scalar (.string key) :: .colon :: tokensOf v))
  | finished (v : Json) : Taken (.finished v) (tokensOf v)

theorem itemTokens_concat {items : List Json} (hne : items ≠ []) (v : Json) :
    itemTokens (items ++ [v]) = itemTokens items ++ .comma :: tokensOf v := by
  induction items with
  | nil => exact absurd rfl hne
  | cons w rest ih =>
    cases rest with
    | nil => rfl
    | cons next rest =>
      have hrest := ih (List.cons_ne_nil next rest)
      calc itemTokens (w :: next :: (rest ++ [v]))
          = tokensOf w ++ .comma :: itemTokens (next :: rest ++ [v]) := rfl
        _ = itemTokens (w :: next :: rest) ++ .comma :: tokensOf v := by
          rw [hrest, itemTokens_cons_cons, List.append_assoc]
          rfl

theorem memberTokens_concat {members : List (StringLiteral × Json)} (hne : members ≠ [])
    (key : StringLiteral) (v : Json) : memberTokens (members ++ [(key, v)]) =
      memberTokens members ++ .comma :: .scalar (.string key) :: .colon :: tokensOf v := by
  induction members with
  | nil => exact absurd rfl hne
  | cons m rest ih =>
    obtain ⟨k, w⟩ := m
    cases rest with
    | nil => rfl
    | cons next rest =>
      have hrest := ih (List.cons_ne_nil next rest)
      calc memberTokens ((k, w) :: next :: (rest ++ [(key, v)]))
          = .scalar (.string k) :: .colon ::
              (tokensOf w ++ .comma :: memberTokens (next :: rest ++ [(key, v)])) := rfl
        _ = memberTokens ((k, w) :: next :: rest) ++
              .comma :: .scalar (.string key) :: .colon :: tokensOf v := by
          rw [hrest, memberTokens_cons_cons, List.cons_append, List.cons_append, List.append_assoc]
          rfl

theorem itemTokens_reverse_cons (v : Json) (before : List Json) :
    itemTokens (v :: before).reverse = itemsBefore before ++ tokensOf v := by
  induction before generalizing v with
  | nil => rfl
  | cons w before ih =>
    rw [List.reverse_cons, itemTokens_concat (by simp), ih, itemsBefore]
    simp

theorem memberTokens_reverse_cons (key : StringLiteral) (v : Json)
    (before : List (StringLiteral × Json)) : memberTokens ((key, v) :: before).reverse =
      membersBefore before ++ .scalar (.string key) :: .colon :: tokensOf v := by
  induction before generalizing key v with
  | nil => rfl
  | cons m before ih =>
    obtain ⟨k, w⟩ := m
    rw [List.reverse_cons, memberTokens_concat (by simp), ih, membersBefore]
    simp

theorem taken_fill (v : Json) (around : List Frame) :
    Taken (Reader.fill v around) (opened around ++ tokensOf v) := by
  cases around with
  | nil => exact .finished v
  | cons frame around =>
    cases frame with
    | item before =>
      rw [opened, List.append_assoc, List.cons_append]
      exact .afterItem v before around
    | member before key =>
      rw [opened, List.append_assoc, List.cons_append, List.append_assoc]
      exact .afterMember key v before around

theorem Taken.start {around : List Frame} {token : Token} {next : Reader}
    (hplain : token.IsPlain) (h : Reader.start around token = some next) :
    Taken next (opened around ++ [token]) := by
  cases token with
  | scalar v =>
    cases h
    rw [← show tokensOf v = [.scalar v] from hplain]
    exact taken_fill v around
  | arrayStart =>
    cases h
    exact .firstItem around
  | objectStart =>
    cases h
    exact .firstKey around
  | arrayEnd => cases h
  | objectEnd => cases h
  | colon => cases h
  | comma => cases h

/-- A step takes one token. -/
theorem Taken.step {reader next : Reader} {ts : List Token} {token : Token}
    (ht : Taken reader ts) (hplain : token.IsPlain) (h : reader.step token = some next) :
    Taken next (ts ++ [token]) := by
  cases ht with
  | value around => exact .start hplain h
  | firstItem around =>
    -- Before the first item any token but the end of the array begins a value.
    by_cases hend : token = .arrayEnd
    · subst hend
      cases h
      rw [List.append_assoc]
      exact taken_fill (.array []) around
    · have hstart : Reader.start (.item [] :: around) token = some next := by
        cases token with
        | arrayEnd => exact absurd rfl hend
        | _ => exact h
      exact .start hplain hstart
  | afterItem v before around =>
    cases token with
    | comma =>
      cases h
      have hvalue := Taken.value (.item (v :: before) :: around)
      simpa [opened, itemsBefore] using hvalue
    | arrayEnd =>
      cases h
      have hfill := taken_fill (.array (v :: before).reverse) around
      rw [tokensOf, itemTokens_reverse_cons] at hfill
      simpa using hfill
    | _ => cases h
  | firstKey around =>
    cases token with
    | objectEnd =>
      cases h
      rw [List.append_assoc]
      exact taken_fill (.object []) around
    | scalar v =>
      cases v with
      | string key =>
        cases h
        rw [List.append_assoc]
        exact .colon [] key around
      | _ => cases h
    | _ => cases h
  | nextKey members around =>
    cases token with
    | scalar v =>
      cases v with
      | string key =>
        cases h
        rw [List.append_assoc]
        exact .colon members key around
      | _ => cases h
    | _ => cases h
  | colon members key around =>
    cases token with
    | colon =>
      cases h
      have hvalue := Taken.value (.member members key :: around)
      simpa [opened] using hvalue
    | _ => cases h
  | afterMember key v before around =>
    cases token with
    | comma =>
      cases h
      have hkey := Taken.nextKey ((key, v) :: before) around
      simpa [membersBefore] using hkey
    | objectEnd =>
      cases h
      have hfill := taken_fill (.object ((key, v) :: before).reverse) around
      rw [tokensOf, memberTokens_reverse_cons] at hfill
      simpa using hfill
    | _ => cases h
  | finished v => cases h

theorem Taken.read {reader last : Reader} {ts before : List Token} (ht : Taken reader before)
    (hplain : ∀ token ∈ ts, token.IsPlain) (h : Json.read reader ts = some last) :
    Taken last (before ++ ts) := by
  induction ts generalizing reader before with
  | nil =>
    cases h
    rwa [List.append_nil]
  | cons token ts ih =>
    rw [read_cons] at h
    obtain ⟨next, hstep, hrest⟩ := Option.bind_eq_some_iff.mp h
    have hnext := ht.step (hplain token List.mem_cons_self) hstep
    rw [List.append_cons]
    exact ih hnext (fun t hmem => hplain t (List.mem_cons_of_mem _ hmem)) hrest

/-- A value is read out of its tokens, and out of no others. -/
theorem ofTokens?_eq_some_iff {ts : List Token} {v : Json}
    (hplain : ∀ token ∈ ts, token.IsPlain) : ofTokens? ts = some v ↔ ts = tokensOf v := by
  have hread : ofTokens? ts = some v ↔ Json.read (.value []) ts = some (.finished v) := by
    rw [ofTokens?, Json.read, Option.bind_eq_bind, Option.bind_eq_some_iff]
    constructor
    · rintro ⟨last, hlast, hv⟩
      cases last with
      | finished w =>
        cases hv
        exact hlast
      | _ => cases hv
    · intro h
      exact ⟨_, h, rfl⟩
  rw [hread]
  constructor
  · intro h
    have htaken := (Taken.value []).read hplain h
    generalize hts : opened [] ++ ts = all at htaken
    cases htaken
    exact hts
  · rintro rfl
    exact read_tokensOf v []

theorem Spelled.isPlain {s : List Char} {ts : List Token} (h : Spelled s ts) :
    ∀ token ∈ ts, token.IsPlain := by
  induction h with
  | nil => simp
  | space _ _ ih => exact ih
  | mark hc _ ih =>
    refine List.forall_mem_cons.mpr ⟨?_, ih⟩
    cases hc <;> trivial
  | string _ _ ih => exact List.forall_mem_cons.mpr ⟨rfl, ih⟩
  | word hw _ _ ih =>
    refine List.forall_mem_cons.mpr ⟨?_, ih⟩
    cases hw <;> rfl
  | number _ _ _ ih => exact List.forall_mem_cons.mpr ⟨rfl, ih⟩

/-- The text consists of the tokens of the value. -/
def IsText (text : String) (v : Json) : Prop :=
  Spelled text.toList (tokensOf v)

/-- The texts that are read are those of values, and each is read as its value. -/
theorem parse?_eq_some_iff {text : String} {v : Json} : parse? text = some v ↔ IsText text v := by
  rw [parse?, Option.bind_eq_some_iff]
  constructor
  · rintro ⟨ts, hts, hv⟩
    have hspelled := tokens?_eq_some_iff.mp hts
    rw [IsText, ← (ofTokens?_eq_some_iff hspelled.isPlain).mp hv]
    exact hspelled
  · intro h
    exact ⟨_, tokens?_eq_some_iff.mpr h, (ofTokens?_eq_some_iff h.isPlain).mpr rfl⟩

mutual

/-- Every number in the value is spelled as one. -/
def WellFormed : Json → Prop
  | .number literal => literal.WellFormed
  | .array items => ItemsWellFormed items
  | .object members => MembersWellFormed members
  | _ => True

def ItemsWellFormed : List Json → Prop
  | [] => True
  | v :: rest => v.WellFormed ∧ ItemsWellFormed rest

def MembersWellFormed : List (StringLiteral × Json) → Prop
  | [] => True
  | (_, v) :: rest => v.WellFormed ∧ MembersWellFormed rest

end

mutual

theorem wellFormed_of_tokens (v : Json)
    (h : ∀ n, .scalar (.number n) ∈ tokensOf v → NumberLiteral.WellFormed n) : v.WellFormed := by
  match v with
  | .null => trivial
  | .bool b => trivial
  | .number literal => exact h literal (List.mem_singleton.mpr rfl)
  | .string content => trivial
  | .array items =>
    refine wellFormed_of_itemTokens items fun n hn => h n ?_
    exact List.mem_cons_of_mem _ (List.mem_append_left _ hn)
  | .object members =>
    refine wellFormed_of_memberTokens members fun n hn => h n ?_
    exact List.mem_cons_of_mem _ (List.mem_append_left _ hn)

theorem wellFormed_of_itemTokens (items : List Json)
    (h : ∀ n, .scalar (.number n) ∈ itemTokens items → NumberLiteral.WellFormed n) :
    ItemsWellFormed items := by
  match items with
  | [] => trivial
  | [v] => exact ⟨wellFormed_of_tokens v h, trivial⟩
  | v :: w :: rest =>
    rw [itemTokens_cons_cons] at h
    refine ⟨wellFormed_of_tokens v fun n hn => h n (List.mem_append_left _ hn),
      wellFormed_of_itemTokens (w :: rest) fun n hn => h n ?_⟩
    exact List.mem_append_right _ (List.mem_cons_of_mem _ hn)

theorem wellFormed_of_memberTokens (members : List (StringLiteral × Json))
    (h : ∀ n, .scalar (.number n) ∈ memberTokens members → NumberLiteral.WellFormed n) :
    MembersWellFormed members := by
  match members with
  | [] => trivial
  | [(key, v)] =>
    refine ⟨wellFormed_of_tokens v fun n hn => h n ?_, trivial⟩
    exact List.mem_cons_of_mem _ (List.mem_cons_of_mem _ hn)
  | (key, v) :: next :: rest =>
    rw [memberTokens_cons_cons] at h
    refine ⟨wellFormed_of_tokens v fun n hn => h n ?_,
      wellFormed_of_memberTokens (next :: rest) fun n hn => h n ?_⟩
    · exact List.mem_cons_of_mem _ (List.mem_cons_of_mem _ (List.mem_append_left _ hn))
    · exact List.mem_cons_of_mem _ (List.mem_cons_of_mem _
        (List.mem_append_right _ (List.mem_cons_of_mem _ hn)))

end

theorem Spelled.wellFormed {s : List Char} {ts : List Token} (h : Spelled s ts) (n : NumberLiteral)
    (hn : .scalar (.number n) ∈ ts) : n.WellFormed := by
  induction h with
  | nil => cases hn
  | space _ _ ih => exact ih hn
  | mark hc _ ih =>
    rcases List.mem_cons.mp hn with rfl | hn
    · cases hc
    · exact ih hn
  | string _ _ ih =>
    rcases List.mem_cons.mp hn with heq | hn
    · cases heq
    · exact ih hn
  | word hw _ _ ih =>
    rcases List.mem_cons.mp hn with heq | hn
    · cases heq
      cases hw
    · exact ih hn
  | number hspells _ _ ih =>
    rcases List.mem_cons.mp hn with heq | hn
    · cases heq
      obtain ⟨_, -, hunsigned⟩ := hspells
      exact hunsigned.wellFormed
    · exact ih hn

/-- Every number that is read is spelled as one. -/
theorem wellFormed_of_parse? {text : String} {v : Json} (h : parse? text = some v) :
    v.WellFormed :=
  wellFormed_of_tokens v (parse?_eq_some_iff.mp h).wellFormed

end LightningDeposit.Json
