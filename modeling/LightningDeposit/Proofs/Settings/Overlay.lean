import LightningDeposit.Proofs.Json.Word
import LightningDeposit.Proofs.Text.Utf8Forms
import LightningDeposit.Settings

/-!
Settings under an environment. Every variable stands for one field, and a table says what its text
makes of the field, if anything. The overlay does this field by field: no field depends on another
one's variable, a second overlay by the same environment changes nothing, and environments that set
different variables can be laid over in either order or at once.
-/

namespace LightningDeposit

namespace Text

/-- The text is a numeral of that number and nothing else: no white space stands around it. -/
def BareNumeral (s : String) (n : ℕ) : Prop :=
  ∃ sign digits, s.toList = sign ++ digits ∧ (sign = [] ∨ sign = ['+']) ∧ digits ≠ [] ∧
    (∀ c ∈ digits, c.isDigit = true) ∧ Nat.ofDigitChars 10 digits 0 = n

end Text

namespace Environment

/-- What an environment says of a variable: a text, or nothing if the variable is not set or does
not hold a text. -/
inductive Says (env : Environment) (name : String) : Option String → Prop
  | unset (h : env.lookup name = none) : Says env name none
  | unreadable {bytes : ByteArray} (h : env.lookup name = some bytes)
    (hbytes : ∀ t : String, bytes ≠ t.toUTF8) : Says env name none
  | text {t : String} (h : env.lookup name = some t.toUTF8) : Says env name (some t)

theorem text?_eq_iff {env : Environment} {name : String} {said : Option String} :
    env.text? name = said ↔ env.Says name said := by
  unfold text?
  constructor
  · rintro rfl
    cases hlookup : env.lookup name with
    | none => exact .unset hlookup
    | some bytes =>
      rw [Option.bind_some]
      cases hread : String.fromUTF8? bytes with
      | none =>
        refine .unreadable hlookup fun t ht => ?_
        rw [Text.fromUTF8?_eq_some_iff.mpr ht] at hread
        cases hread
      | some t =>
        rw [Text.fromUTF8?_eq_some_iff.mp hread] at hlookup
        exact .text hlookup
  · intro h
    cases h with
    | unset h => rw [h, Option.bind_none]
    | unreadable h hbytes =>
      rw [h, Option.bind_some, Option.eq_none_iff_forall_ne_some]
      exact fun t ht => hbytes t (Text.fromUTF8?_eq_some_iff.mp ht)
    | text h => rw [h, Option.bind_some, Text.fromUTF8?_eq_some_iff]

end Environment

namespace Settings

/-- The variables that settings are read from. -/
inductive Variable where
  | apiKey
  | apiUrl
  | callbackUrl
  | redisUrl
  | invoiceExpiry
  | timeout
  deriving DecidableEq

/-- What the field of a variable holds. -/
inductive Value where
  | text (s : String)
  | url (address : Option String)
  | number (n : UInt64)

inductive Kind where
  | text
  | url
  | number

namespace Kind

/-- What a text makes of a field of that kind. A text that is no numeral of 64 bits makes nothing of
a number. -/
inductive Makes : Kind → String → Value → Prop
  | text (t : String) : Makes .text t (.text t)
  | url {t : String} (h : t ≠ "") : Makes .url t (.url (some t))
  | noUrl : Makes .url "" (.url none)
  | number {t : String} {n : UInt64} (h : Text.BareNumeral t n.toNat) : Makes .number t (.number n)

def read? : Kind → String → Option Value
  | .text, t => some (.text t)
  | .url, t => some (.url (nonEmpty t))
  | .number, t => (Text.readWord? t.toList).map .number

theorem read?_eq_some_iff {kind : Kind} {t : String} {v : Value} :
    kind.read? t = some v ↔ kind.Makes t v := by
  have hnumber (n : UInt64) : Text.readWord? t.toList = some n ↔ Text.BareNumeral t n.toNat :=
    Text.readWord?_eq_some_iff
  constructor
  · intro h
    cases kind with
    | text =>
      cases h
      exact .text t
    | url =>
      cases h
      unfold nonEmpty
      split
      next hempty =>
        subst hempty
        exact .noUrl
      next hempty => exact .url hempty
    | number =>
      obtain ⟨n, hn, rfl⟩ := Option.map_eq_some_iff.mp h
      exact .number ((hnumber n).mp hn)
  · intro h
    cases h with
    | text => rfl
    | url hne => rw [read?, nonEmpty, if_neg hne]
    | noUrl => rfl
    | number hn => rw [read?, (hnumber _).mpr hn, Option.map_some]

end Kind

namespace Variable

def name : Variable → String
  | .apiKey => "CDK_MINTD_ZBD_API_KEY"
  | .apiUrl => "CDK_MINTD_ZBD_API_URL"
  | .callbackUrl => "CDK_MINTD_ZBD_CALLBACK_URL"
  | .redisUrl => "CDK_MINTD_ZBD_REDIS_URL"
  | .invoiceExpiry => "CDK_MINTD_ZBD_INVOICE_EXPIRY"
  | .timeout => "CDK_MINTD_ZBD_TIMEOUT_MS"

def kind : Variable → Kind
  | .apiKey | .apiUrl => .text
  | .callbackUrl | .redisUrl => .url
  | .invoiceExpiry | .timeout => .number

theorem name_injective : Function.Injective name := by
  intro x y h
  cases x <;> cases y <;> first | rfl | exact absurd h (by decide)

/-- What an environment makes of the field of a variable: what the variable's text makes of it, or
nothing where there is no such text. -/
inductive Turns (env : Environment) (x : Variable) (before : Value) : Value → Prop
  | made {t : String} {after : Value} (h : env.Says x.name (some t)) (ht : x.kind.Makes t after) :
    Turns env x before after
  | kept (h : ∀ t v, env.Says x.name (some t) → ¬x.kind.Makes t v) : Turns env x before before

/-- The value that an environment has for the field of a variable. -/
def asked (env : Environment) (x : Variable) : Option Value :=
  (env.text? x.name).bind x.kind.read?

theorem turns_iff {env : Environment} {x : Variable} {before after : Value} :
    x.Turns env before after ↔ after = (x.asked env).getD before := by
  have hasked {v : Value} : x.asked env = some v ↔
      ∃ t, env.Says x.name (some t) ∧ x.kind.Makes t v := by
    simp only [asked, Option.bind_eq_some_iff, Environment.text?_eq_iff, Kind.read?_eq_some_iff]
  constructor
  · intro h
    cases h with
    | made h ht => rw [hasked.mpr ⟨_, h, ht⟩, Option.getD_some]
    | kept h =>
      cases hv : x.asked env with
      | none => rfl
      | some v =>
        obtain ⟨t, hsays, hmakes⟩ := hasked.mp hv
        exact absurd hmakes (h t v hsays)
  · rintro rfl
    cases hv : x.asked env with
    | none =>
      refine .kept fun t v hsays hmakes => ?_
      rw [hasked.mpr ⟨t, hsays, hmakes⟩] at hv
      cases hv
    | some v =>
      obtain ⟨t, hsays, hmakes⟩ := hasked.mp hv
      exact .made hsays hmakes

/-- Only the variable itself is looked at. -/
theorem asked_congr {env other : Environment} {x : Variable}
    (h : other.lookup x.name = env.lookup x.name) : x.asked other = x.asked env := by
  rw [asked, asked, Environment.text?, Environment.text?, h]

theorem asked_eq_none {env : Environment} {x : Variable} (h : env.lookup x.name = none) :
    x.asked env = none := by
  rw [asked, Environment.text?, h, Option.bind_none, Option.bind_none]

/-- Where only one of two environments sets a variable, both together say what that one says. -/
theorem asked_append {env other : Environment} {x : Variable}
    (h : env.lookup x.name = none ∨ other.lookup x.name = none) :
    x.asked (env ++ other) = (x.asked env).or (x.asked other) := by
  have hboth : (env ++ other).lookup x.name = (env.lookup x.name).or (other.lookup x.name) :=
    List.lookup_append
  rcases h with hnone | hnone
  · rw [asked_eq_none hnone, Option.none_or]
    apply asked_congr
    rw [hboth, hnone, Option.none_or]
  · rw [asked_eq_none hnone, Option.or_none]
    apply asked_congr
    rw [hboth, hnone, Option.or_none]

end Variable

def field (s : Settings) : Variable → Value
  | .apiKey => .text s.apiKey
  | .apiUrl => .text s.apiUrl
  | .callbackUrl => .url s.callbackUrl
  | .redisUrl => .url s.redisUrl
  | .invoiceExpiry => .number s.invoiceExpirySecs
  | .timeout => .number s.timeoutMs

/-- Settings are told apart by the fields of the variables and the description. -/
theorem eq_of_field {s t : Settings} (h : ∀ x, s.field x = t.field x)
    (hdescription : s.invoiceDescription = t.invoiceDescription) : s = t := by
  have hkey := h .apiKey
  have hurl := h .apiUrl
  have hcallback := h .callbackUrl
  have hredis := h .redisUrl
  have hexpiry := h .invoiceExpiry
  have htimeout := h .timeout
  simp only [field, Value.text.injEq, Value.url.injEq, Value.number.injEq] at *
  cases s
  cases t
  simp_all

theorem overlayWord_eq (current : UInt64) (text : Option String) :
    Value.number (overlayWord current text) =
      (text.bind (Kind.read? .number)).getD (.number current) := by
  cases text with
  | none => rfl
  | some t => cases hread : Text.readWord? t.toList <;> simp [overlayWord, Kind.read?, hread]

/-- The overlay goes by the table. -/
theorem field_overlay (s : Settings) (env : Environment) (x : Variable) :
    (s.overlay env).field x = (x.asked env).getD (s.field x) := by
  cases x with
  | apiKey =>
    simp only [field, overlay, Variable.asked, Variable.name, Variable.kind]
    cases env.text? "CDK_MINTD_ZBD_API_KEY" <;> rfl
  | apiUrl =>
    simp only [field, overlay, Variable.asked, Variable.name, Variable.kind]
    cases env.text? "CDK_MINTD_ZBD_API_URL" <;> rfl
  | callbackUrl =>
    simp only [field, overlay, Variable.asked, Variable.name, Variable.kind]
    cases env.text? "CDK_MINTD_ZBD_CALLBACK_URL" <;> rfl
  | redisUrl =>
    simp only [field, overlay, Variable.asked, Variable.name, Variable.kind]
    cases env.text? "CDK_MINTD_ZBD_REDIS_URL" <;> rfl
  | invoiceExpiry => exact overlayWord_eq _ _
  | timeout => exact overlayWord_eq _ _

/-- Each field goes by its own variable. Where an environment sets a variable to a text that is of use
for the field, the field becomes what the text makes of it, and else it stays as it was; nothing but
that variable is looked at, and the description has none. So what another environment says of other
variables makes no difference to a field, laying an environment over twice is laying it over once, and
two environments that set different variables come to the same in either order and together. -/
theorem overlay_by_own_variable (s : Settings) (env : Environment) :
    (∀ x v, (s.overlay env).field x = v ↔ x.Turns env (s.field x) v) ∧
    (s.overlay env).invoiceDescription = s.invoiceDescription ∧
    (∀ (x : Variable) (t : Settings) (other : Environment), t.field x = s.field x →
      other.lookup x.name = env.lookup x.name →
      (t.overlay other).field x = (s.overlay env).field x) ∧
    (∀ (x y : Variable) (bytes : ByteArray), y ≠ x →
      (s.overlay ((y.name, bytes) :: env)).field x = (s.overlay env).field x) ∧
    (s.overlay env).overlay env = s.overlay env ∧
    (∀ other : Environment,
      (∀ x : Variable, env.lookup x.name = none ∨ other.lookup x.name = none) →
      (s.overlay env).overlay other = (s.overlay other).overlay env ∧
      (s.overlay env).overlay other = s.overlay (env ++ other)) := by
  have hframe (x : Variable) (t : Settings) (other : Environment) (hfield : t.field x = s.field x)
      (hlookup : other.lookup x.name = env.lookup x.name) :
      (t.overlay other).field x = (s.overlay env).field x := by
    rw [field_overlay, field_overlay, Variable.asked_congr hlookup, hfield]
  refine ⟨fun x v => ?_, rfl, hframe, fun x y bytes hne => ?_, ?_, fun other hdisjoint => ⟨?_, ?_⟩⟩
  · rw [field_overlay, Variable.turns_iff, eq_comm]
  · apply hframe x s _ rfl
    have hname : (x.name == y.name) = false :=
      beq_eq_false_iff_ne.mpr fun h => hne (Variable.name_injective h).symm
    rw [List.lookup_cons, hname]
  · refine eq_of_field (fun x => ?_) rfl
    simp only [field_overlay]
    cases x.asked env <;> rfl
  · refine eq_of_field (fun x => ?_) rfl
    simp only [field_overlay]
    rcases hdisjoint x with hnone | hnone <;>
      rw [Variable.asked_eq_none hnone, Option.getD_none, Option.getD_none]
  · refine eq_of_field (fun x => ?_) rfl
    simp only [field_overlay, Variable.asked_append (hdisjoint x)]
    rcases hdisjoint x with hnone | hnone
    · rw [Variable.asked_eq_none hnone, Option.none_or, Option.getD_none]
    · rw [Variable.asked_eq_none hnone, Option.or_none, Option.getD_none]

/-- A key that is no text and an expiry with a plus sign and zeros in front in one environment, an empty
address of the broker and a timeout with a blank after it in the other. -/
theorem overlay_by_own_variable_of_two :
    let s : Settings := { default with apiKey := "key", redisUrl := some "redis://h" }
    let env : Environment :=
      [("CDK_MINTD_ZBD_API_KEY", ⟨#[0xFF]⟩), ("CDK_MINTD_ZBD_INVOICE_EXPIRY", "+007".toUTF8)]
    let other : Environment :=
      [("CDK_MINTD_ZBD_REDIS_URL", "".toUTF8), ("CDK_MINTD_ZBD_TIMEOUT_MS", "5 ".toUTF8)]
    (∀ x : Variable, env.lookup x.name = none ∨ other.lookup x.name = none) ∧
      (s.overlay env).overlay other = s.overlay (env ++ other) ∧
      s.overlay (env ++ other) =
        { default with apiKey := "key", redisUrl := none, invoiceExpirySecs := 7 } := by
  intro s env other
  have hdisjoint (x : Variable) : env.lookup x.name = none ∨ other.lookup x.name = none := by
    cases x with
    | apiKey | invoiceExpiry => exact .inr rfl
    | apiUrl | callbackUrl | redisUrl | timeout => exact .inl rfl
  obtain ⟨-, -, -, -, -, hboth⟩ := overlay_by_own_variable s env
  exact ⟨hdisjoint, (hboth other hdisjoint).2, by decide⟩

end Settings

end LightningDeposit
