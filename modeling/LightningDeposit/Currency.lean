import LightningDeposit.Json.Decode
import LightningDeposit.Text.Case

/-!
Currency units and amounts. An amount counts satoshis or millisatoshis, or cents of a currency.
-/

namespace LightningDeposit

inductive CurrencyUnit where
  | sat
  | msat
  | usd
  | eur
  deriving DecidableEq

/-- What is said of a text that names no unit. -/
def unknownUnitMessage (text : String) : String :=
  "Unknown currency unit: " ++ text

namespace CurrencyUnit

def name : CurrencyUnit → String
  | .sat => "sat"
  | .msat => "msat"
  | .usd => "usd"
  | .eur => "eur"

/-- The unit of exactly that name. -/
def ofName? (s : String) : Option CurrencyUnit :=
  if s = "sat" then some .sat
  else if s = "msat" then some .msat
  else if s = "usd" then some .usd
  else if s = "eur" then some .eur
  else none

theorem ofName?_name (u : CurrencyUnit) : ofName? u.name = some u := by
  cases u <;> decide

/-- The unit that a person may have written: any letter case, white space around it, and the
plural for satoshis. -/
def parse? (s : String) : Option CurrencyUnit :=
  let word := String.ofList (Text.lower (Text.trimChars s.toList))
  if word = "sats" then some .sat
  else if word = "msats" then some .msat
  else ofName? word

def parse (s : String) : Except String CurrencyUnit :=
  match parse? s with
  | some unit => .ok unit
  | none => .error (unknownUnitMessage s)

def toJson (u : CurrencyUnit) : Json := Json.text u.name

def ofJson? (v : Json) : Option CurrencyUnit := v.name?.bind ofName?

end CurrencyUnit

structure Amount where
  unit : CurrencyUnit
  value : UInt64
  deriving DecidableEq

namespace Amount

def sat (value : UInt64) : Amount := ⟨.sat, value⟩

def usdCents (value : UInt64) : Amount := ⟨.usd, value⟩

def text (a : Amount) : String :=
  Text.ofNat a.value.toNat ++ " " ++ a.unit.name

def toJson (a : Amount) : Json :=
  Json.record [("unit", a.unit.toJson), ("value", Json.word a.value)]

def ofJson? (v : Json) : Option Amount := do
  let field ← v.fields? ["unit", "value"]
  return {
    unit := ← (field "unit").required CurrencyUnit.ofJson?
    value := ← (field "value").required Json.word? }

end Amount

end LightningDeposit
