import LightningDeposit.Json.Decode
import Mathlib.Data.List.Nodup

/-!
What a record holds, told of the value itself: an object gives every known name one member at most
and lets the others pass, an array gives the fields in their order and may end early. Reading the
fields finds just what is told here.
-/

namespace LightningDeposit.Json

/-- The values of the members with that key, in their order. -/
def valuesOf (members : List (StringLiteral × Json)) (key : String) : List Json :=
  (members.filter fun m => m.1 = some key).map Prod.snd

/-- The value is a record with fields of these names, each with the value in its place or without
one. Every key of an object must be well formed, known or not. -/
inductive HasFields (names : List String) : Json → List (Option Json) → Prop
  | object (members : List (StringLiteral × Json)) (fields : List (Option Json))
    (hkeys : ∀ m ∈ members, m.1 ≠ none)
    (hfields : names.map (valuesOf members) = fields.map Option.toList) :
    HasFields names (.object members) fields
  | array (items : List Json) (hlength : items.length ≤ names.length) :
    HasFields names (.array items)
      (items.map some ++ List.replicate (names.length - items.length) none)

section Members

variable {members : List (StringLiteral × Json)}

theorem head?_valuesOf (members : List (StringLiteral × Json)) (key : String) :
    (valuesOf members key).head? = members.lookup (some key) := by
  induction members with
  | nil => rfl
  | cons m rest ih =>
    obtain ⟨k, v⟩ := m
    rw [valuesOf] at ih ⊢
    by_cases hk : k = some key
    · simp [hk]
    · have hbeq : (some key == k) = false := by simpa using Ne.symm hk
      simpa [hk, List.lookup_cons, hbeq] using ih

theorem length_valuesOf (members : List (StringLiteral × Json)) (key : String) :
    (valuesOf members key).length = (members.map Prod.fst).count (some key) := by
  rw [valuesOf, List.length_map, ← List.countP_eq_length_filter, List.count, List.countP_map]
  exact List.countP_congr fun m _ => by simp

theorem valuesOf_eq_toList_iff {key : String} {field : Option Json} :
    valuesOf members key = field.toList ↔
      (members.map Prod.fst).count (some key) ≤ 1 ∧ members.lookup (some key) = field := by
  rw [← length_valuesOf, ← head?_valuesOf]
  constructor
  · intro h
    rw [h]
    cases field <;> simp
  · rintro ⟨hlength, rfl⟩
    cases hvalues : valuesOf members key with
    | nil => rfl
    | cons v rest =>
      rw [hvalues, List.length_cons] at hlength
      have hrest : rest = [] := List.eq_nil_of_length_eq_zero (by omega)
      rw [hrest]
      rfl

/-- Values stand in their places when no key comes twice and each is found under its key. -/
theorem map_valuesOf_eq_iff {names : List String} {fields : List (Option Json)} :
    names.map (valuesOf members) = fields.map Option.toList ↔
      (∀ name ∈ names, (members.map Prod.fst).count (some name) ≤ 1) ∧
        names.map (fun name => members.lookup (some name)) = fields := by
  induction names generalizing fields with
  | nil => cases fields <;> simp
  | cons name rest ih =>
    cases fields with
    | nil => simp
    | cons field fields =>
      simp only [List.map_cons, List.cons.injEq, valuesOf_eq_toList_iff, ih, List.forall_mem_cons]
      exact and_and_and_comm

end Members

namespace Field

/-- The value that a record gives a field, if it gives one. -/
def value? : Field → Option Json
  | .given v => some v
  | _ => none

variable {α : Type} {decode : Json → Option α} {f : Field}

theorem required_eq_some_iff {a : α} :
    f.required decode = some a ↔ ∃ v, f.value? = some v ∧ decode v = some a := by
  cases f <;> simp [required, value?]

theorem withDefault_of_value? {default : α} {v : Json} (h : f.value? = some v) :
    f.withDefault default decode = decode v := by
  cases f with
  | given w =>
    cases h
    rfl
  | missing => cases h
  | cut => cases h

theorem withDefault_of_none {default : α} (h : f.value? = none) :
    f.withDefault default decode = some default := by
  cases f with
  | given w => cases h
  | missing => rfl
  | cut => rfl

/-- A field with a default can be read unless it holds what cannot. -/
theorem withDefault_isSome_iff {default : α} :
    (∃ a, f.withDefault default decode = some a) ↔ ∀ v ∈ f.value?, ∃ a, decode v = some a := by
  cases f <;> simp [withDefault, value?]

end Field

theorem value?_memberField (members : List (StringLiteral × Json)) (name : String) :
    (memberField members name).value? = members.lookup (some name) := by
  rw [memberField]
  cases members.lookup (some name) <;> rfl

theorem value?_itemField (names : List String) (items : List Json) (name : String) :
    (itemField names items name).value? = items[names.idxOf name]? := by
  rw [itemField]
  cases items[names.idxOf name]? <;> rfl

/-- The fields of an array stand in the order of their names. -/
theorem map_itemField {names : List String} (hnames : names.Nodup) {items : List Json}
    (hlength : items.length ≤ names.length) :
    names.map (fun name => (itemField names items name).value?) =
      items.map some ++ List.replicate (names.length - items.length) none := by
  apply List.ext_getElem
  · simp only [List.length_map, List.length_append, List.length_replicate]
    omega
  · intro i hi hi'
    rw [List.length_map] at hi
    rw [List.getElem_map, value?_itemField, hnames.idxOf_getElem i hi]
    by_cases hitem : i < items.length
    · rw [List.getElem_append_left (by simpa using hitem), List.getElem_map,
        List.getElem?_eq_getElem hitem]
    · rw [List.getElem_append_right (by simpa using hitem), List.getElem_replicate,
        List.getElem?_eq_none (by omega)]

theorem isRecord_iff {names : List String} {members : List (StringLiteral × Json)} :
    isRecord names members = true ↔ (∀ m ∈ members, m.1 ≠ none) ∧
      ∀ name ∈ names, (members.map Prod.fst).count (some name) ≤ 1 := by
  simp [isRecord, List.all_eq_true, Option.isSome_iff_ne_none]

/-- Reading the fields of a record finds what it holds, and fails on everything else. -/
theorem hasFields_iff {names : List String} (hnames : names.Nodup) {v : Json}
    {values : List (Option Json)} : HasFields names v values ↔
      ∃ field, v.fields? names = some field ∧ names.map (fun name => (field name).value?) = values := by
  constructor
  · intro h
    cases h with
    | object members _ hkeys hfields =>
      obtain ⟨hcount, hvalues⟩ := map_valuesOf_eq_iff.mp hfields
      refine ⟨memberField members, if_pos (isRecord_iff.mpr ⟨hkeys, hcount⟩), ?_⟩
      simp only [value?_memberField]
      exact hvalues
    | array items hlength =>
      exact ⟨itemField names items, if_pos hlength, map_itemField hnames hlength⟩
  · rintro ⟨field, hfield, rfl⟩
    cases v with
    | object members =>
      simp only [fields?] at hfield
      split at hfield
      next hrecord =>
        cases hfield
        obtain ⟨hkeys, hcount⟩ := isRecord_iff.mp hrecord
        simp only [value?_memberField]
        exact .object members _ hkeys (map_valuesOf_eq_iff.mpr ⟨hcount, rfl⟩)
      next => cases hfield
    | array items =>
      simp only [fields?] at hfield
      split at hfield
      next hlength =>
        cases hfield
        rw [map_itemField hnames hlength]
        exact .array items hlength
      next => cases hfield
    | null => cases hfield
    | bool b => cases hfield
    | number literal => cases hfield
    | string content => cases hfield

/-- A record holds one value at most in each place. -/
theorem HasFields.unique {names : List String} (hnames : names.Nodup) {record : Json}
    {fields other : List (Option Json)} (h : HasFields names record fields)
    (h' : HasFields names record other) : fields = other := by
  obtain ⟨field, hfield, rfl⟩ := (hasFields_iff hnames).mp h
  obtain ⟨field', hfield', rfl⟩ := (hasFields_iff hnames).mp h'
  cases hfield.symm.trans hfield'
  rfl

/-- The value is that word as a unit of an enumeration is written: the text itself, or an object
whose only member has it for a key and is null. -/
inductive Names : Json → String → Prop
  | text (word : String) : Names (.string (some word)) word
  | variant (word : String) : Names (.object [(some word, .null)]) word

theorem Names.unique {v : Json} {word other : String} (h : Names v word) (h' : Names v other) :
    word = other := by
  cases h <;> cases h' <;> rfl

theorem name?_eq_some_iff {v : Json} {word : String} : v.name? = some word ↔ Names v word := by
  constructor
  · intro h
    unfold name? at h
    split at h
    next =>
      cases h
      exact .text word
    next =>
      cases h
      exact .variant word
    next => cases h
  · intro h
    cases h <;> rfl

theorem string?_eq_some_iff {v : Json} {s : String} : v.string? = some s ↔ v = text s := by
  cases v <;> simp [string?, text]

theorem bool?_eq_some_iff {v : Json} {b : Bool} : v.bool? = some b ↔ v = .bool b := by
  cases v <;> simp [bool?]

/-- The value is null, or it is read. -/
theorem nullable?_isSome_iff {α : Type} {decode : Json → Option α} {v : Json} :
    (∃ a, nullable? decode v = some a) ↔ v = .null ∨ ∃ a, decode v = some a := by
  cases v <;> simp [nullable?]

end LightningDeposit.Json
