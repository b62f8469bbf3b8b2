import LightningDeposit.Proofs.Json.Record
import LightningDeposit.Proofs.Json.RoundTrip

/-!
Data that come back from the text that they are written as. The text is read back whatever it
holds, so for each kind of data it remains to read the value that was written: a record gives each
field the value written under its name, an absent value is null, and a 64-bit word is spelled by
its own digits.
-/

namespace LightningDeposit.Json

/-- Every value comes back from its text. -/
def RoundTrips {α : Type} (encode : α → Json) (decode : Json → Option α) : Prop :=
  ∀ a, (parse? (encode a).write).bind decode = some a

/-- What is written can be told from an absent value, has only well spelled numbers, and is read
back. -/
structure Faithful {α : Type} (encode : α → Json) (decode : Json → Option α) : Prop where
  ne_null (a : α) : encode a ≠ .null
  wellFormed (a : α) : (encode a).WellFormed
  read (a : α) : decode (encode a) = some a

attribute [simp] wellFormed_text wellFormed_word

namespace Field

variable {α : Type} (decode : Json → Option α) (v : Json)

@[simp]
theorem required_given : (given v).required decode = decode v := rfl

@[simp]
theorem optional_given : (given v).optional decode = nullable? decode v := rfl

@[simp]
theorem optional_missing : missing.optional decode = some none := rfl

@[simp]
theorem withDefault_given (default : α) : (given v).withDefault default decode = decode v := rfl

end Field

section Scalars

@[simp]
theorem wellFormed_bool (b : Bool) : (bool b).WellFormed := trivial

@[simp]
theorem string?_text (s : String) : (text s).string? = some s := rfl

@[simp]
theorem bool?_bool (b : Bool) : (bool b).bool? = some b := rfl

@[simp]
theorem name?_text (s : String) : (text s).name? = some s := rfl

/-- The digits of a word are read as the word itself, up to the largest. -/
@[simp]
theorem word?_word (n : UInt64) : (word n).word? = some n := by
  have hfits : n.toNat < UInt64.size := n.toNat_lt_size
  simp [word, nat, word?, numberOfLiteral?, Nat.ofDigitChars_ten_toDigits, hfits]

@[simp]
theorem wordOrText?_word (n : UInt64) : (word n).wordOrText? = some n := word?_word n

theorem faithful_text : Faithful text string? :=
  ⟨fun _ => nofun, wellFormed_text, string?_text⟩

theorem faithful_bool : Faithful bool bool? :=
  ⟨fun _ => nofun, wellFormed_bool, bool?_bool⟩

end Scalars

namespace Faithful

variable {α : Type} {encode : α → Json} {decode : Json → Option α}

theorem roundTrips (h : Faithful encode decode) : RoundTrips encode decode := by
  intro a
  rw [parse?_write (h.wellFormed a), Option.bind_some, h.read a]

theorem wellFormed_optional (h : Faithful encode decode) (o : Option α) :
    (optional encode o).WellFormed := by
  cases o with
  | none => exact trivial
  | some a => exact h.wellFormed a

theorem nullable?_encode (h : Faithful encode decode) (a : α) :
    nullable? decode (encode a) = some (some a) := by
  rw [nullable?, h.read a, Option.map_some]
  exact h.ne_null a

theorem nullable?_optional (h : Faithful encode decode) (o : Option α) :
    nullable? decode (optional encode o) = some o := by
  cases o with
  | none => rfl
  | some a => exact h.nullable?_encode a

end Faithful

/-- A text that may be absent, as many records have one. -/
@[simp]
theorem nullable?_text (o : Option String) : nullable? string? (optional text o) = some o :=
  faithful_text.nullable?_optional o

@[simp]
theorem wellFormed_optional_text (o : Option String) : (optional text o).WellFormed :=
  faithful_text.wellFormed_optional o

section Records

variable {α : Type} {members : List (String × Json)}

/-- A written record gives each field the value written under its name. -/
theorem memberField_record (members : List (String × Json)) (name : String) :
    memberField (members.map fun (key, v) => (some key, v)) name =
      (members.lookup name).elim .missing .given := by
  have hlookup : (members.map fun (key, v) => ((some key : StringLiteral), v)).lookup (some name) =
      members.lookup name := by
    induction members with
    | nil => rfl
    | cons m rest ih =>
      obtain ⟨key, v⟩ := m
      simp only [List.map_cons, List.lookup_cons, ih, Option.some_beq_some]
  rw [memberField, hlookup]
  cases members.lookup name <;> rfl

theorem isRecord_record (names : List String) (h : (members.map Prod.fst).Nodup) :
    isRecord names (members.map fun (key, v) => (some key, v)) = true := by
  have hkeys : (members.map fun (key, v) => ((some key : StringLiteral), v)).map Prod.fst =
      (members.map Prod.fst).map some := by
    simp only [List.map_map, Function.comp_def]
  refine isRecord_iff.mpr ⟨?_, fun name _ => ?_⟩
  · rintro m hm
    obtain ⟨-, -, rfl⟩ := List.mem_map.mp hm
    exact Option.some_ne_none _
  · rw [hkeys]
    exact List.nodup_iff_count_le_one.mp (h.map fun _ _ => Option.some.inj) _

theorem fields?_record (names : List String) (h : (members.map Prod.fst).Nodup) :
    (record members).fields? names =
      some fun name => (members.lookup name).elim .missing .given := by
  rw [record, fields?, if_pos (isRecord_record names h)]
  exact congrArg some (funext (memberField_record members))

/-- Data written as records under names of their own come back if the values of the members are
well spelled and the data can be made of what stands under the names. -/
theorem Faithful.of_record {names : List String} {build : (String → Field) → Option α}
    {membersOf : α → List (String × Json)} (hkeys : ∀ a, ((membersOf a).map Prod.fst).Nodup)
    (hvalues : ∀ a, ∀ m ∈ membersOf a, m.2.WellFormed)
    (hread : ∀ a, build (fun name => ((membersOf a).lookup name).elim .missing .given) = some a) :
    Faithful (fun a => record (membersOf a)) (fun v => v.fields? names >>= build) where
  ne_null _ := nofun
  wellFormed a := wellFormed_record (hvalues a)
  read a := by
    rw [fields?_record names (hkeys a)]
    exact hread a

end Records

end LightningDeposit.Json
