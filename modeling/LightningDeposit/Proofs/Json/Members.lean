import LightningDeposit.Proofs.Json.Record

/-!
Records whose members come in another order, or of which some are left out. No name that is known
has two values, so the order says nothing, and a member that is left out takes nothing else with it.
-/

namespace LightningDeposit.Json

/-- What is made of the fields of two records is the same if it is the same of related fields, and
if one of the two is no record neither is the other. -/
theorem bind_congr_of_rel {α : Type} {R : (String → Field) → (String → Field) → Prop}
    {x y : Option (String → Field)} {build : (String → Field) → Option α} (h : Option.Rel R x y)
    (hbuild : ∀ f g, R f g → build f = build g) : (x >>= build) = (y >>= build) := by
  cases h with
  | none => rfl
  | some hfields => exact hbuild _ _ hfields

theorem rel_of_rel_of_rel {α : Type} {R S T : α → α → Prop} {x y z : Option α}
    (h : ∀ a b c, R a b → S b c → T a c) (hxy : Option.Rel R x y) (hyz : Option.Rel S y z) :
    Option.Rel T x z := by
  cases hxy with
  | none =>
    cases hyz
    exact .none
  | some hab =>
    cases hyz with
    | some hbc => exact .some (h _ _ _ hab hbc)

section Order

variable {names : List String} {members members' : List (StringLiteral × Json)}

theorem isRecord_perm (h : members.Perm members') :
    isRecord names members = isRecord names members' := by
  rw [Bool.eq_iff_iff, isRecord_iff, isRecord_iff]
  simp only [h.mem_iff, (h.map Prod.fst).count_eq]

/-- A name that comes once has the same value in every order. -/
theorem memberField_perm (h : members.Perm members') {name : String}
    (hcount : (members.map Prod.fst).count (some name) ≤ 1) :
    memberField members name = memberField members' name := by
  have hvalues : (valuesOf members name).Perm (valuesOf members' name) := (h.filter _).map _
  have hsame : valuesOf members name = valuesOf members' name := by
    rw [← length_valuesOf] at hcount
    cases hlist : valuesOf members name with
    | nil =>
      rw [hlist] at hvalues
      exact (List.nil_perm.mp hvalues).symm
    | cons v rest =>
      rw [hlist, List.length_cons] at hcount
      obtain rfl : rest = [] := List.eq_nil_of_length_eq_zero (by omega)
      rw [hlist] at hvalues
      exact (List.perm_singleton.mp hvalues.symm).symm
  unfold memberField
  rw [← head?_valuesOf, ← head?_valuesOf, hsame]

/-- The members of an object may change their places. -/
theorem fields?_perm (h : members.Perm members') :
    Option.Rel (fun f g => ∀ name ∈ names, f name = g name)
      ((object members).fields? names) ((object members').fields? names) := by
  simp only [fields?, ← isRecord_perm h]
  split
  next hrecord =>
    apply Option.Rel.some
    intro name hname
    exact memberField_perm h ((isRecord_iff.mp hrecord).2 name hname)
  next => exact .none

end Order

section LeavingOut

variable {α : Type} (members : List (String × Json)) (left : List String)

/-- A member is found among those that are not left out just if it is not left out itself. -/
theorem lookup_filter_notMem (name : String) :
    (members.filter fun m => m.1 ∉ left).lookup name =
      if name ∈ left then none else members.lookup name := by
  induction members with
  | nil => simp
  | cons m rest ih =>
    obtain ⟨key, v⟩ := m
    by_cases hkey : name = key
    · subst hkey
      by_cases hleft : name ∈ left
      · simpa [hleft] using ih
      · simp [hleft]
    · have hbeq : (name == key) = false := beq_eq_false_iff_ne.mpr hkey
      by_cases hleft : key ∈ left
      · simpa [hleft, List.lookup_cons, hbeq] using ih
      · simpa [hleft, List.lookup_cons, hbeq] using ih

/-- A field that is left out has its default, and any other what is read of its value. -/
theorem withDefault_of_left {decode : Json → Option α} {name : String} {v : Json} {a : α}
    (hv : members.lookup name = some v) (hread : decode v = some a) (default : α) :
    let kept := members.filter fun m => m.1 ∉ left
    Field.withDefault default decode ((kept.lookup name).elim .missing .given) =
      some (if name ∈ left then default else a) := by
  intro kept
  rw [lookup_filter_notMem, hv]
  split
  next => rfl
  next => exact hread

end LeavingOut

end LightningDeposit.Json
