import LightningDeposit.Proofs.Json.Layout
import LightningDeposit.Proofs.Json.Members

/-!
Records in a text to which something has been added. An object may be given members under keys that
are no fields, in any places, and its members may be moved about; the records in its fields may grow
in the same way. What is read of the fields stays as it was.
-/

namespace LightningDeposit.Json

/-- Members among which others have been put, under keys that are none of these names. The values of
those that were there may have grown. -/
inductive MembersGrow (names : List String) (inner : StringLiteral → Written → Written → Prop) :
    List WrittenMember → List WrittenMember → Prop
  | nil : MembersGrow names inner [] []
  | kept {members members' : List WrittenMember} (m : WrittenMember) {value' : Written}
    (hvalue : inner m.key m.value value') (hrest : MembersGrow names inner members members') :
    MembersGrow names inner (m :: members) ({ m with value := value' } :: members')
  | added {members members' : List WrittenMember} (m : WrittenMember) {other : String}
    (hkey : m.key = some other) (hother : other ∉ names)
    (hrest : MembersGrow names inner members members') :
    MembersGrow names inner members (m :: members')

/-- A text of a record with fields of these names has grown: an object has been given members and
another order of them, and what stands in a field, of an object or of an array, may have grown. -/
inductive Grows (names : List String) (inner : StringLiteral → Written → Written → Prop) :
    Written → Written → Prop
  | same (t : Written) : Grows names inner t t
  | object (before inside after : Spaces) {members between members' : List WrittenMember}
    (hmembers : MembersGrow names inner members between) (horder : between.Perm members') :
    Grows names inner (.object before inside after members) (.object before inside after members')
  | array (before inside after : Spaces) {items items' : List Written}
    (hlength : items.length = items'.length)
    (hitems : ∀ (i : ℕ) (t t' : Written), items[i]? = some t → items'[i]? = some t' →
      inner names[i]? t t') :
    Grows names inner (.array before inside after items) (.array before inside after items')

/-- The text in a field may have grown if it is the field of that name. -/
def Under (name : String) (grows : Written → Written → Prop) (key : StringLiteral)
    (t t' : Written) : Prop :=
  t = t' ∨ key = some name ∧ grows t t'

/-- No text in a field has grown. -/
def Flat : StringLiteral → Written → Written → Prop := fun _ => Eq

/-- A field is as it was, or there is a grown text in it. -/
inductive Field.Grows (grows : Written → Written → Prop) : Field → Field → Prop
  | same (f : Field) : Field.Grows grows f f
  | given {t t' : Written} (h : grows t t') : Field.Grows grows (.given t.value) (.given t'.value)

namespace Field.Grows

variable {α : Type} {grows : Written → Written → Prop} {decode : Json → Option α} {f g : Field}

theorem eq (hgrows : ∀ t t', grows t t' → t = t') (h : Field.Grows grows f g) : f = g := by
  cases h with
  | same => rfl
  | given h => rw [hgrows _ _ h]

theorem required_eq (hdecode : ∀ t t', grows t t' → decode t.value = decode t'.value)
    (h : Field.Grows grows f g) : f.required decode = g.required decode := by
  cases h with
  | same => rfl
  | given h => exact hdecode _ _ h

theorem withDefault_eq (hdecode : ∀ t t', grows t t' → decode t.value = decode t'.value)
    (h : Field.Grows grows f g) (default : α) :
    f.withDefault default decode = g.withDefault default decode := by
  cases h with
  | same => rfl
  | given h => exact hdecode _ _ h

/-- A field of another name than the one that may have grown. -/
theorem eq_of_under {name other : String} (h : Field.Grows (Under name grows (some other)) f g)
    (hne : other ≠ name) : f = g := by
  apply h.eq
  intro t t' hunder
  obtain heq | ⟨hkey, -⟩ := hunder
  · exact heq
  · exact absurd (Option.some.inj hkey) hne

end Field.Grows

theorem Under.read_eq {α : Type} {decode : Json → Option α} {name : String} {key : StringLiteral}
    {grows : Written → Written → Prop} {t t' : Written} (h : Under name grows key t t')
    (hdecode : grows t t' → decode t.value = decode t'.value) :
    decode t.value = decode t'.value := by
  obtain rfl | ⟨-, hgrows⟩ := h
  · rfl
  · exact hdecode hgrows

namespace MembersGrow

variable {names : List String} {inner : StringLiteral → Written → Written → Prop}
  {members members' : List WrittenMember} {name : String}

theorem isSome_key (h : MembersGrow names inner members members') :
    (∀ m ∈ members, m.key ≠ none) ↔ ∀ m ∈ members', m.key ≠ none := by
  induction h with
  | nil => rfl
  | kept m _ _ ih => simp only [List.forall_mem_cons, ih]
  | added m hkey _ _ ih => simp [ih, hkey]

theorem count_key (h : MembersGrow names inner members members') (hname : name ∈ names) :
    (members.map WrittenMember.key).count (some name) =
      (members'.map WrittenMember.key).count (some name) := by
  induction h with
  | nil => rfl
  | kept m _ _ ih => simp only [List.map_cons, List.count_cons, ih]
  | @added _ _ m other hkey hother _ ih =>
    have hne : other ≠ name := fun heq => hother (heq ▸ hname)
    simp [ih, hkey, hne]

theorem isRecord_eq (h : MembersGrow names inner members members') :
    isRecord names (members.map WrittenMember.member) =
      isRecord names (members'.map WrittenMember.member) := by
  rw [Bool.eq_iff_iff, isRecord_iff, isRecord_iff]
  simp only [List.forall_mem_map, List.map_map]
  apply and_congr h.isSome_key
  apply forall₂_congr
  intro name hname
  exact iff_of_eq (congrArg (· ≤ 1) (h.count_key hname))

/-- A known key finds what it found before, or what that has grown to. -/
theorem memberField_grows (h : MembersGrow names inner members members') (hname : name ∈ names) :
    Field.Grows (inner (some name)) (memberField (members.map WrittenMember.member) name)
      (memberField (members'.map WrittenMember.member) name) := by
  unfold memberField
  induction h with
  | nil => exact .same .missing
  | kept m hvalue _ ih =>
    by_cases hkey : some name = m.key
    · simpa [WrittenMember.member, List.lookup_cons, ← hkey] using .given (hkey ▸ hvalue)
    · simpa [WrittenMember.member, List.lookup_cons, beq_eq_false_iff_ne.mpr hkey] using ih
  | @added _ _ m other hkey hother _ ih =>
    have hne : some name ≠ m.key := fun heq => hother (Option.some.inj (heq.trans hkey) ▸ hname)
    simpa [WrittenMember.member, List.lookup_cons, beq_eq_false_iff_ne.mpr hne] using ih

theorem fields?_grows (h : MembersGrow names inner members members') :
    Option.Rel (fun f g => ∀ name ∈ names, Field.Grows (inner (some name)) (f name) (g name))
      ((object (members.map WrittenMember.member)).fields? names)
      ((object (members'.map WrittenMember.member)).fields? names) := by
  simp only [fields?, h.isRecord_eq]
  split
  next => exact .some fun name hname => h.memberField_grows hname
  next => exact .none

end MembersGrow

namespace Grows

variable {names : List String} {inner : StringLiteral → Written → Written → Prop} {t t' : Written}

/-- A field of an array is in its place or beyond the end, as it was. -/
theorem itemField_grows {items items' : List Written} (hlength : items.length = items'.length)
    (hitems : ∀ (i : ℕ) (t t' : Written), items[i]? = some t → items'[i]? = some t' →
      inner names[i]? t t') {name : String} (hname : name ∈ names) :
    Field.Grows (inner (some name)) (itemField names (items.map Written.value) name)
      (itemField names (items'.map Written.value) name) := by
  have hplace : names[names.idxOf name]? = some name := List.getElem?_idxOf hname
  simp only [itemField, List.getElem?_map]
  cases hitem : items[names.idxOf name]? with
  | none =>
    have hend : items.length ≤ names.idxOf name := List.getElem?_eq_none_iff.mp hitem
    rw [List.getElem?_eq_none (hlength ▸ hend)]
    exact .same .cut
  | some t =>
    obtain ⟨hlt, -⟩ := List.getElem?_eq_some_iff.mp hitem
    obtain ⟨t', hitem'⟩ : ∃ t', items'[names.idxOf name]? = some t' :=
      ⟨_, List.getElem?_eq_getElem (hlength ▸ hlt)⟩
    rw [hitem']
    exact .given (hplace ▸ hitems _ _ _ hitem hitem')

/-- The fields of the grown record are those of the record before, each as it has grown. -/
theorem fields?_grows (h : Grows names inner t t') :
    Option.Rel (fun f g => ∀ name ∈ names, Field.Grows (inner (some name)) (f name) (g name))
      (t.value.fields? names) (t'.value.fields? names) := by
  cases h with
  | same =>
    cases t.value.fields? names with
    | none => exact .none
    | some f => exact .some fun name _ => .same (f name)
  | object before inside after hmembers horder =>
    apply rel_of_rel_of_rel _ hmembers.fields?_grows (fields?_perm (horder.map _))
    intro f g g' hfg hsame name hname
    rw [← hsame name hname]
    exact hfg name hname
  | array before inside after hlength hitems =>
    simp only [Written.array, fields?, List.length_map, ← hlength]
    split
    next => exact .some fun name hname => itemField_grows hlength hitems hname
    next => exact .none

theorem nullable?_eq {α : Type} {decode : Json → Option α} (h : Grows names inner t t')
    (hdecode : decode t.value = decode t'.value) :
    nullable? decode t.value = nullable? decode t'.value := by
  cases h with
  | same => rfl
  | object => exact congrArg (Option.map some) hdecode
  | array => exact congrArg (Option.map some) hdecode

/-- With no record in its fields, a grown record has the fields that it had. -/
theorem bind_eq_of_flat {α : Type} {build : (String → Field) → Option α}
    (h : Grows names Flat t t')
    (hbuild : ∀ f g : String → Field, (∀ name ∈ names, f name = g name) → build f = build g) :
    (t.value.fields? names >>= build) = (t'.value.fields? names >>= build) := by
  apply bind_congr_of_rel h.fields?_grows
  intro f g hfields
  exact hbuild f g fun name hname => (hfields name hname).eq fun _ _ heq => heq

end Grows

/-- Whatever a text has grown by, the same is read of it. -/
def ReadAlike {α : Type} (grows : Written → Written → Prop) (decode : Json → Option α) : Prop :=
  ∀ t t', grows t t' → (parse? t'.text).bind decode = (parse? t.text).bind decode

theorem readAlike_of_value {α : Type} {grows : Written → Written → Prop}
    {decode : Json → Option α} (h : ∀ t t', grows t t' → decode t.value = decode t'.value) :
    ReadAlike grows decode := by
  intro t t' hgrows
  rw [parse?_eq_some_iff.mpr t.isText, parse?_eq_some_iff.mpr t'.isText]
  exact (h t t' hgrows).symm

end LightningDeposit.Json
