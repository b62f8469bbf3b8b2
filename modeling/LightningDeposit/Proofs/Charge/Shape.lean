import LightningDeposit.Charge.Wire
import LightningDeposit.Proofs.Json.Record

/-!
Which JSON values are envelopes, invoices and charges, told without their readers, and what the
readers make of them. A charge is read exactly if it has this shape, and its state is then the one
that its status names, or pending where it has no status.
-/

namespace LightningDeposit

open Json (HasFields Names valuesOf)

/-- An envelope around some data: what else it says may be absent, null, or of the right kind. -/
def Envelope.Carries (v data : Json) : Prop :=
  ∃ success message, HasFields ["success", "data", "message"] v [success, some data, message] ∧
    (∀ s ∈ success, s = .null ∨ ∃ b, s = .bool b) ∧
    ∀ m ∈ message, m = .null ∨ ∃ t, m = Json.text t

/-- A lightning invoice, with or without a link to it. -/
def ChargeInvoice.Described (v : Json) : Prop :=
  ∃ request uri, HasFields ["request", "uri"] v [some (Json.text request), uri] ∧
    ∀ u ∈ uri, u = .null ∨ ∃ t, u = Json.text t

/-- A charge with that status, or without one. A status names some word, known or not. -/
def Charge.Described (v : Json) (status : Option Json) : Prop :=
  ∃ id invoice, HasFields ["id", "status", "invoice"] v [some (Json.text id), status, invoice] ∧
    (∀ s ∈ status, ∃ word, Names s word) ∧
    ∀ i ∈ invoice, i = .null ∨ ChargeInvoice.Described i

/-- The state that a status stands for. -/
inductive ChargeStatus.Told : Option Json → ChargeStatus → Prop
  | absent : Told none .pending
  | named {s : Json} {word : String} (h : Names s word) : Told (some s) (ofName word)

namespace ChargeStatus

theorem Told.eq_pending {state : ChargeStatus} (h : Told none state) : state = .pending := by
  cases h
  rfl

theorem Told.eq_ofName {s : Json} {word : String} {state : ChargeStatus}
    (h : Told (some s) state) (hword : Names s word) : state = ofName word := by
  cases h with
  | named hnamed => rw [hnamed.unique hword]

/-- Every known state has a word of its own. -/
theorem ofName_eq_iff {word : String} {state : ChargeStatus} (h : state ≠ .unknown) :
    ofName word = state ↔ word = state.name := by
  constructor
  · rintro rfl
    unfold ofName at h ⊢
    split_ifs at h ⊢ with h₁ h₂ h₃ h₄
    · exact h₁
    · exact h₂
    · exact h₃
    · exact h₄
    · exact absurd rfl h
  · rintro rfl
    exact ofName_name state

theorem ofName_eq_unknown_iff {word : String} :
    ofName word = .unknown ↔ word ∉ ["completed", "expired", "error", "pending"] := by
  unfold ofName
  split_ifs <;> simp_all

end ChargeStatus

section Reading

open Json

variable {α : Type} {decode : Json → Option α} {v : Json}

/-- What is said beside the data may be left out. -/
theorem nullableField_iff {f : Field} {Good : Json → Prop}
    (h : ∀ w, (∃ a, decode w = some a) ↔ Good w) :
    (∃ a, f.withDefault none (nullable? decode) = some a) ↔ ∀ w ∈ f.value?, w = .null ∨ Good w := by
  rw [Field.withDefault_isSome_iff]
  simp only [nullable?_isSome_iff, h]

theorem nullableText_iff {f : Field} : (∃ a, f.withDefault none (nullable? string?) = some a) ↔
    ∀ w ∈ f.value?, w = .null ∨ ∃ t, w = Json.text t :=
  nullableField_iff fun w => by simp only [string?_eq_some_iff]

/-- An envelope is read if it has the shape of one and the data in it are read. -/
theorem Envelope.ofJson?_iff {a : α} : (∃ e, ofJson? decode v = some e ∧ e.data = a) ↔
    ∃ data, Carries v data ∧ decode data = some a := by
  have hnames : ["success", "data", "message"].Nodup := by decide
  have hbool (f : Field) : (∃ a, f.withDefault none (nullable? bool?) = some a) ↔
      ∀ w ∈ f.value?, w = .null ∨ ∃ b, w = Json.bool b :=
    nullableField_iff fun w => by simp only [bool?_eq_some_iff]
  constructor
  · rintro ⟨e, he, rfl⟩
    simp only [ofJson?, Option.bind_eq_bind, Option.bind_eq_some_iff, Option.pure_def] at he
    obtain ⟨field, hfield, success, hsuccess, data, hdata, message, hmessage, he⟩ := he
    cases he
    obtain ⟨w, hw, hread⟩ := Field.required_eq_some_iff.mp hdata
    refine ⟨w, ⟨(field "success").value?, (field "message").value?, ?_, ?_, ?_⟩, hread⟩
    · exact (hasFields_iff hnames).mpr ⟨field, hfield, by simp [hw]⟩
    · exact (hbool _).mp ⟨success, hsuccess⟩
    · exact nullableText_iff.mp ⟨message, hmessage⟩
  · rintro ⟨data, ⟨success, message, hfields, hsuccess, hmessage⟩, hdata⟩
    obtain ⟨field, hfield, hvalues⟩ := (hasFields_iff hnames).mp hfields
    simp only [List.map_cons, List.map_nil, List.cons.injEq, and_true] at hvalues
    obtain ⟨rfl, hw, rfl⟩ := hvalues
    obtain ⟨s, hs⟩ := (hbool _).mpr hsuccess
    obtain ⟨m, hm⟩ := nullableText_iff.mpr hmessage
    have hread : (field "data").required decode = some a :=
      Field.required_eq_some_iff.mpr ⟨data, hw, hdata⟩
    exact ⟨⟨s, a, m⟩, by simp [ofJson?, hfield, hs, hread, hm], rfl⟩

/-- An envelope around any data is read first, and the data in it then. -/
theorem Envelope.ofJson?_eq_bind (decode : Json → Option α) (v : Json) :
    ofJson? decode v = (ofJson? some v).bind fun e =>
      (decode e.data).map fun a => ⟨e.success, a, e.message⟩ := by
  simp only [ofJson?, Option.bind_eq_bind, Option.bind_assoc]
  congr 1
  funext field
  congr 1
  funext success
  -- The data are decoded before the message is read on one side and after it on the other.
  cases hdata : field "data" with
  | given data =>
    simp only [Field.required]
    cases (field "message").withDefault none (nullable? string?) <;>
      simp only [Option.bind_some, Option.bind_none, Option.pure_def, Option.map_eq_bind] <;>
      cases decode data <;> rfl
  | missing => rfl
  | cut => rfl

/-- Reading more out of the data of an envelope, or less, is no matter of the envelope. -/
theorem Envelope.ofJson?_map {β : Type} (decode : Json → Option α) (f : α → β) (v : Json) :
    ofJson? (fun w => (decode w).map f) v =
      (ofJson? decode v).map fun e => ⟨e.success, f e.data, e.message⟩ := by
  rw [ofJson?_eq_bind, ofJson?_eq_bind decode, Option.map_bind]
  simp only [Option.map_map, Function.comp_def]

theorem ChargeInvoice.ofJson?_iff : (∃ i, ofJson? v = some i) ↔ Described v := by
  have hnames : ["request", "uri"].Nodup := by decide
  constructor
  · rintro ⟨i, hi⟩
    simp only [ofJson?, Option.bind_eq_bind, Option.bind_eq_some_iff, Option.pure_def] at hi
    obtain ⟨field, hfield, request, hrequest, uri, huri, -⟩ := hi
    obtain ⟨w, hw, hread⟩ := Field.required_eq_some_iff.mp hrequest
    rw [string?_eq_some_iff.mp hread] at hw
    refine ⟨request, (field "uri").value?, ?_, nullableText_iff.mp ⟨uri, huri⟩⟩
    exact (hasFields_iff hnames).mpr ⟨field, hfield, by simp [hw]⟩
  · rintro ⟨request, uri, hfields, huri⟩
    obtain ⟨field, hfield, hvalues⟩ := (hasFields_iff hnames).mp hfields
    simp only [List.map_cons, List.map_nil, List.cons.injEq, and_true] at hvalues
    obtain ⟨hw, rfl⟩ := hvalues
    obtain ⟨u, hu⟩ := nullableText_iff.mpr huri
    have hread : (field "request").required string? = some request :=
      Field.required_eq_some_iff.mpr ⟨_, hw, rfl⟩
    exact ⟨⟨request, u⟩, by simp [ofJson?, hfield, hread, hu]⟩

theorem ChargeStatus.ofJson?_eq_some_iff {state : ChargeStatus} :
    ofJson? v = some state ↔ Told (some v) state := by
  simp only [ofJson?, Option.map_eq_some_iff, ofJsonWord_eq_ofName]
  constructor
  · rintro ⟨word, hword, rfl⟩
    exact .named (name?_eq_some_iff.mp hword)
  · intro h
    cases h with
    | named hword => exact ⟨_, name?_eq_some_iff.mpr hword, rfl⟩

theorem ChargeStatus.withDefault_eq_some_iff {f : Field} {state : ChargeStatus} :
    f.withDefault .pending ofJson? = some state ↔ Told f.value? state := by
  cases hvalue : f.value? with
  | none =>
    rw [Field.withDefault_of_none hvalue]
    constructor
    · rintro ⟨⟩
      exact .absent
    · rintro ⟨⟩
      rfl
  | some w => rw [Field.withDefault_of_value? hvalue, ofJson?_eq_some_iff]

/-- A charge is read if it has the shape of one, in the state that its status tells. -/
theorem Charge.ofJson?_iff {state : ChargeStatus} : (∃ c, ofJson? v = some c ∧ c.status = state) ↔
    ∃ status, Described v status ∧ ChargeStatus.Told status state := by
  have hnames : ["id", "status", "invoice"].Nodup := by decide
  have hinvoice (f : Field) :
      (∃ a, f.withDefault none (nullable? ChargeInvoice.ofJson?) = some a) ↔
        ∀ w ∈ f.value?, w = .null ∨ ChargeInvoice.Described w :=
    nullableField_iff fun w => ChargeInvoice.ofJson?_iff
  constructor
  · rintro ⟨c, hc, rfl⟩
    simp only [ofJson?, Option.bind_eq_bind, Option.bind_eq_some_iff, Option.pure_def] at hc
    obtain ⟨field, hfield, id, hid, state, hstate, invoice, hinv, hc⟩ := hc
    cases hc
    obtain ⟨w, hw, hread⟩ := Field.required_eq_some_iff.mp hid
    rw [string?_eq_some_iff.mp hread] at hw
    have htold := ChargeStatus.withDefault_eq_some_iff.mp hstate
    refine ⟨(field "status").value?, ⟨id, (field "invoice").value?, ?_, ?_, ?_⟩, htold⟩
    · exact (hasFields_iff hnames).mpr ⟨field, hfield, by simp [hw]⟩
    · intro s hs
      rw [Option.mem_def.mp hs] at htold
      cases htold with
      | named hword => exact ⟨_, hword⟩
    · exact (hinvoice _).mp ⟨invoice, hinv⟩
  · rintro ⟨status, ⟨id, invoice, hfields, -, hinv⟩, htold⟩
    obtain ⟨field, hfield, hvalues⟩ := (hasFields_iff hnames).mp hfields
    simp only [List.map_cons, List.map_nil, List.cons.injEq, and_true] at hvalues
    obtain ⟨hw, rfl, rfl⟩ := hvalues
    obtain ⟨i, hi⟩ := (hinvoice _).mpr hinv
    have hstate := ChargeStatus.withDefault_eq_some_iff.mpr htold
    have hread : (field "id").required string? = some id :=
      Field.required_eq_some_iff.mpr ⟨_, hw, rfl⟩
    exact ⟨⟨id, state, i⟩, by simp [ofJson?, hfield, hread, hstate, hi], rfl⟩

end Reading

end LightningDeposit
