import LightningDeposit.Proofs.Json.Faithful
import LightningDeposit.Proofs.Json.Members
import LightningDeposit.Settings

/-!
The defaults of settings. They are stated for the record as a whole and for each field by itself,
and the two agree: whatever is left out of the settings written as JSON is read as it is by default,
and whatever is not left out is read as it was written.
-/

namespace LightningDeposit

/-- There is a text of the value, and every text of it is read as that. -/
def Json.ReadAs {α : Type} (decode : Json → Option α) (v : Json) (a : α) : Prop :=
  (∃ text, IsText text v) ∧ ∀ text, IsText text v → (parse? text).bind decode = some a

theorem Json.readAs_of_wellFormed {α : Type} {decode : Json → Option α} {v : Json} {a : α}
    (hv : v.WellFormed) (hread : decode v = some a) : ReadAs decode v a := by
  refine ⟨⟨_, isText_write hv⟩, ?_⟩
  intro text htext
  rw [parse?_eq_some_iff.mpr htext]
  exact hread

namespace Settings

open Json (IsText ReadAs)

/-- The members of the object that settings are written as. -/
def members (s : Settings) : List (String × Json) :=
  [("api_key", Json.text s.apiKey), ("api_url", Json.text s.apiUrl),
    ("callback_url", Json.optional Json.text s.callbackUrl),
    ("redis_url", Json.optional Json.text s.redisUrl),
    ("invoice_expiry_secs", Json.word s.invoiceExpirySecs),
    ("invoice_description", Json.text s.invoiceDescription),
    ("timeout_ms", Json.word s.timeoutMs)]

theorem toJson_eq_record (s : Settings) : s.toJson = Json.record s.members := rfl

/-- The settings with the fields of these names as they are by default. -/
def reset (s : Settings) (names : List String) : Settings where
  apiKey := if "api_key" ∈ names then default.apiKey else s.apiKey
  apiUrl := if "api_url" ∈ names then default.apiUrl else s.apiUrl
  callbackUrl := if "callback_url" ∈ names then default.callbackUrl else s.callbackUrl
  redisUrl := if "redis_url" ∈ names then default.redisUrl else s.redisUrl
  invoiceExpirySecs :=
    if "invoice_expiry_secs" ∈ names then default.invoiceExpirySecs else s.invoiceExpirySecs
  invoiceDescription :=
    if "invoice_description" ∈ names then default.invoiceDescription else s.invoiceDescription
  timeoutMs := if "timeout_ms" ∈ names then default.timeoutMs else s.timeoutMs

variable (s : Settings) (left : List String)

theorem nodup_members : (s.members.map Prod.fst).Nodup := by
  simp [members]

theorem wellFormed_members : ∀ m ∈ s.members, m.2.WellFormed := by
  simp [members]

/-- Settings are read from the members that are not left out. -/
theorem ofJson?_filter_members :
    ofJson? (Json.record (s.members.filter fun m => m.1 ∉ left)) = some (s.reset left) := by
  have hkeys : ((s.members.filter fun m => m.1 ∉ left).map Prod.fst).Nodup :=
    s.nodup_members.sublist (List.filter_sublist.map Prod.fst)
  have htext {name : String} {t : String} (h : s.members.lookup name = some (Json.text t)) :=
    Json.withDefault_of_left s.members left h (Json.string?_text t)
  have hword {name : String} {n : UInt64} (h : s.members.lookup name = some (Json.word n)) :=
    Json.withDefault_of_left s.members left h (Json.word?_word n)
  have hurl {name : String} {o : Option String}
      (h : s.members.lookup name = some (Json.optional Json.text o)) :=
    Json.withDefault_of_left s.members left h (Json.nullable?_text o)
  simp only [ofJson?, Json.fields?_record _ hkeys, Option.bind_eq_bind, Option.bind_some]
  rw [htext rfl, htext rfl, hurl rfl, hurl rfl, hword rfl, htext rfl, hword rfl]
  rfl

/-- The order of the members is of no account. -/
theorem ofJson?_perm {members members' : List (String × Json)} (h : members.Perm members') :
    ofJson? (Json.record members) = ofJson? (Json.record members') := by
  unfold ofJson?
  apply Json.bind_congr_of_rel (Json.fields?_perm (h.map _))
  intro f g hsame
  simp [hsame]

/-- Settings with nothing but a key are the defaults with that key. -/
theorem reset_ofApiKey (key : String) :
    (ofApiKey key).reset ["api_url", "callback_url", "redis_url", "invoice_expiry_secs",
      "invoice_description", "timeout_ms"] = ofApiKey key := by
  simp [reset, ofApiKey]

/-- Every field has one default. Of the object that settings are written as, any members may be left
out and the others may come in any order: the text, however it is spelled, is read as these settings
with just the fields left out as they are by default. So the empty object is read as the defaults,
and an object with nothing but a key as the defaults with that key. -/
theorem left_out_as_by_default :
    (∀ s : Settings, s.toJson = Json.record s.members ∧ ∀ left members,
      members.Perm (s.members.filter fun m => m.1 ∉ left) →
        ReadAs ofJson? (Json.record members) (s.reset left)) ∧
    ReadAs ofJson? (.object []) default ∧
    ∀ key, ReadAs ofJson? (Json.record [("api_key", Json.text key)]) (ofApiKey key) := by
  have hread (s : Settings) (left : List String) (members : List (String × Json))
      (h : members.Perm (s.members.filter fun m => m.1 ∉ left)) :
      ReadAs ofJson? (Json.record members) (s.reset left) := by
    apply Json.readAs_of_wellFormed
    · apply Json.wellFormed_record
      intro m hm
      exact s.wellFormed_members m (List.mem_of_mem_filter (h.mem_iff.mp hm))
    · rw [ofJson?_perm h, ofJson?_filter_members]
  refine ⟨fun s => ⟨s.toJson_eq_record, hread s⟩, ?_, fun key => ?_⟩
  · have hall : default.reset (default.members.map Prod.fst) = default := by
      simp [reset]
    rw [← hall]
    apply hread default _ []
    simp [members]
  · rw [← reset_ofApiKey key]
    apply hread (ofApiKey key)
    simp [members, ofApiKey]

/-- Settings without an address, a broker, a description or times, their key after their callback.
-/
theorem left_out_as_by_default_but_two :
    let s : Settings := ⟨"key", "http://h.test", some "http://h.test/paid", none, 60, "tea", 5⟩
    let left := ["api_url", "redis_url", "invoice_expiry_secs", "invoice_description", "timeout_ms"]
    let members := [("callback_url", Json.text "http://h.test/paid"), ("api_key", Json.text "key")]
    let text := "\x7b \"callback_url\" : \"http:\\/\\/h.test\\/paid\",\n" ++
      "\"api_ke\\u0079\":\"key\"\x7d"
    members.Perm (s.members.filter fun m => m.1 ∉ left) ∧ IsText text (Json.record members) ∧
      (Json.parse? text).bind ofJson? = some ⟨"key", "https://api.zebedee.io",
        some "http://h.test/paid", none, 900, "Cashu mint deposit", 30000⟩ := by
  intro s left members text
  have hperm : members.Perm (s.members.filter fun m => m.1 ∉ left) := .swap _ _ []
  have htext : IsText text (Json.record members) :=
    Json.isText_of_write_eq ⟨trivial, trivial, trivial⟩ (by decide +kernel)
  have hread := ((left_out_as_by_default.1 s).2 left members hperm).2 text htext
  exact ⟨hperm, htext, hread⟩

end Settings

end LightningDeposit
