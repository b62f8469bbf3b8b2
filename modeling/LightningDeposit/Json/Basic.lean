/-!
JSON values as a text spells them. Numbers keep their digits and objects keep every member in
order, so what a repeated key or a long number means is left to whoever reads the value.
-/

namespace LightningDeposit

/-- A number as written: the digits before the point, those after it, and the exponent's sign and
digits. -/
structure NumberLiteral where
  negative : Bool
  whole : List Char
  places : Option (List Char)
  exponent : Option (Bool × List Char)
  deriving DecidableEq

/-- The content of a string literal, or `none` when its escapes leave half of a surrogate pair
alone. -/
abbrev StringLiteral := Option String

inductive Json where
  | null
  | bool (value : Bool)
  | number (literal : NumberLiteral)
  | string (content : StringLiteral)
  | array (items : List Json)
  | object (members : List (StringLiteral × Json))

namespace Json

def text (s : String) : Json := .string (some s)

/-- A whole number. -/
def nat (n : Nat) : Json := .number ⟨false, Nat.toDigits 10 n, none, none⟩

def word (n : UInt64) : Json := nat n.toNat

/-- An absent value is null. -/
def optional {α : Type} (encode : α → Json) : Option α → Json
  | none => .null
  | some a => encode a

/-- An object with distinct well-formed keys. -/
def record (members : List (String × Json)) : Json :=
  .object (members.map fun (key, value) => (some key, value))

end Json

end LightningDeposit
