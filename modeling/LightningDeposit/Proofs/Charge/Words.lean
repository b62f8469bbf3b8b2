import LightningDeposit.Proofs.Charge.Shape
import LightningDeposit.Proofs.Json.RoundTrip

/-!
The words for the states of a charge. A state is told from a word, shown as one, and read from and
written to JSON, and the words are the same in every direction, whatever word it is and however its
JSON is spelled.
-/

namespace LightningDeposit.ChargeStatus

open Json (IsText)

/-- The text is the word as JSON has names: a string, or an object whose only member has the word for
its key and is null. -/
def NamedBy (word text : String) : Prop :=
  IsText text (Json.text word) ∨ IsText text (.object [(some word, .null)])

theorem namedBy_iff {word text : String} :
    NamedBy word text ↔ ∃ v, IsText text v ∧ Json.Names v word := by
  constructor
  · rintro (h | h)
    · exact ⟨_, h, .text word⟩
    · exact ⟨_, h, .variant word⟩
  · rintro ⟨_, h, hword⟩
    cases hword with
    | text => exact .inl h
    | variant => exact .inr h

/-- A text is read as the state of the word that it is. -/
theorem read_eq_some_iff {text : String} {state : ChargeStatus} :
    (Json.parse? text).bind ofJson? = some state ↔
      ∃ word, NamedBy word text ∧ ofName word = state := by
  simp only [Option.bind_eq_some_iff, Json.parse?_eq_some_iff, ofJson?_eq_some_iff, namedBy_iff]
  constructor
  · rintro ⟨v, htext, htold⟩
    cases htold with
    | named hword => exact ⟨_, ⟨v, htext, hword⟩, rfl⟩
  · rintro ⟨word, ⟨v, htext, hword⟩, rfl⟩
    exact ⟨v, htext, .named hword⟩

theorem write_toJson (state : ChargeStatus) :
    (toJson state).write = "\"" ++ state.name ++ "\"" := by
  cases state <;> rfl

theorem isFinal_result_iff (state : ChargeStatus) : state.result.isFinal = true ↔
    state = .completed ∨ state = .expired ∨ state = .error := by
  cases state <;> decide

theorem isFinal_ofName_iff (word : String) : (ofName word).result.isFinal = true ↔
    word = "completed" ∨ word = "expired" ∨ word = "error" := by
  rw [isFinal_result_iff, ofName_eq_iff (by decide), ofName_eq_iff (by decide),
    ofName_eq_iff (by decide)]
  rfl

/-- The words agree. However a word is spelled in JSON, it is read as the state that it is told to be,
and no other text is read as a state; a state is written as the word that it is shown by, and told from
that word again. Only three words are of states in which nothing is expected to change. -/
theorem words_agree :
    (∀ word text, NamedBy word text → (Json.parse? text).bind ofJson? = some (ofName word)) ∧
    (∀ text state, (Json.parse? text).bind ofJson? = some state → ∃ word, NamedBy word text) ∧
    (∀ state, (toJson state).write = "\"" ++ state.name ++ "\"") ∧
    (∀ state, ofName state.name = state) ∧
    ∀ word, (ofName word).result.isFinal = true ↔
      word = "completed" ∨ word = "expired" ∨ word = "error" := by
  refine ⟨fun word text h => ?_, fun text state h => ?_, write_toJson, ofName_name,
    isFinal_ofName_iff⟩
  · exact read_eq_some_iff.mpr ⟨word, h, rfl⟩
  · obtain ⟨word, hword, -⟩ := read_eq_some_iff.mp h
    exact ⟨word, hword⟩

/-- A word with two of its letters escaped, one with a capital digit, as the key of an object. -/
theorem words_agree_for_escaped_letters :
    let text := " \x7b\"\\u0063omp\\u006Ceted\" :\tnull\x7d\n"
    NamedBy "completed" text ∧ (Json.parse? text).bind ofJson? = some .completed := by
  intro text
  have hname : (Json.parse? text).bind Json.name? = some "completed" := by decide
  obtain ⟨v, hv, hword⟩ := Option.bind_eq_some_iff.mp hname
  have hnamed : NamedBy "completed" text :=
    namedBy_iff.mpr ⟨v, Json.parse?_eq_some_iff.mp hv, Json.name?_eq_some_iff.mp hword⟩
  exact ⟨hnamed, words_agree.1 "completed" text hnamed⟩

end LightningDeposit.ChargeStatus
