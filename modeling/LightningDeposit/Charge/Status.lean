import LightningDeposit.Payment.Result

/-!
The state of a charge as the provider spells it, and what it means for the payment. A word that is
not known stands for itself as unknown and is never guessed at. The words stand in three tables, which
are the same: one to show a state, one to tell it from a word, and one for JSON.
-/

namespace LightningDeposit

inductive ChargeStatus where
  | pending
  | completed
  | expired
  | error
  | unknown
  deriving DecidableEq

namespace ChargeStatus

def name : ChargeStatus → String
  | .pending => "pending"
  | .completed => "completed"
  | .expired => "expired"
  | .error => "error"
  | .unknown => "unknown"

def ofName (s : String) : ChargeStatus :=
  if s = "pending" then .pending
  else if s = "completed" then .completed
  else if s = "expired" then .expired
  else if s = "error" then .error
  else .unknown

theorem ofName_name (s : ChargeStatus) : ofName s.name = s := by
  cases s <;> decide

def result : ChargeStatus → PaymentResult
  | .pending => .pending
  | .completed => .settled
  | .expired => .failed
  | .error => .failed
  | .unknown => .unknown

/-- A state as it is called in its declaration. -/
def declaredName : ChargeStatus → String
  | .pending => "Pending"
  | .completed => "Completed"
  | .expired => "Expired"
  | .error => "Error"
  | .unknown => "Unknown"

/-- The word of a state in JSON: its declared name in lower case. -/
def jsonWord (s : ChargeStatus) : String :=
  String.ofList (s.declaredName.toList.map Char.toLower)

/-- The state of a word in JSON; a word of none of these is for any other state. -/
def ofJsonWord (word : String) : ChargeStatus :=
  ([.pending, .completed, .expired, .error].find? fun s => s.jsonWord = word).getD .unknown

theorem jsonWord_eq_name (s : ChargeStatus) : s.jsonWord = s.name := by
  cases s <;> rfl

theorem ofJsonWord_eq_ofName (word : String) : ofJsonWord word = ofName word := by
  by_cases hpending : word = "pending"
  · subst hpending
    rfl
  by_cases hcompleted : word = "completed"
  · subst hcompleted
    rfl
  by_cases hexpired : word = "expired"
  · subst hexpired
    rfl
  by_cases herror : word = "error"
  · subst herror
    rfl
  simp [ofJsonWord, ofName, jsonWord_eq_name, name, Ne.symm, hpending, hcompleted, hexpired, herror]

theorem ofJsonWord_jsonWord (s : ChargeStatus) : ofJsonWord s.jsonWord = s := by
  rw [ofJsonWord_eq_ofName, jsonWord_eq_name, ofName_name]

def toJson (s : ChargeStatus) : Json := Json.text s.jsonWord

def ofJson? (v : Json) : Option ChargeStatus := v.name?.map ofJsonWord

end ChargeStatus

end LightningDeposit
