import LightningDeposit.Json.Basic

/-!
Writing values without white space. In strings only what must be escaped is escaped: quotes,
backslashes and controls.
-/

namespace LightningDeposit.Json

/-- The escape of a control character by its number. -/
def controlEscape (n : Nat) : List Char :=
  "\\u00".toList ++ [Nat.digitChar (n / 16), Nat.digitChar (n % 16)]

def writtenChar (c : Char) : List Char :=
  if c = '"' then "\\\"".toList
  else if c = '\\' then "\\\\".toList
  else if c = '\n' then "\\n".toList
  else if c = '\r' then "\\r".toList
  else if c = '\t' then "\\t".toList
  else if c.toNat = 8 then "\\b".toList
  else if c.toNat = 12 then "\\f".toList
  else if c.toNat < 0x20 then controlEscape c.toNat
  else [c]

/-- A literal without content is written as half of a surrogate pair. -/
def writeString : StringLiteral → List Char
  | some s => '"' :: s.toList.flatMap writtenChar ++ ['"']
  | none => "\"\\ud800\"".toList

def writeNumber (n : NumberLiteral) : List Char :=
  (if n.negative then ['-'] else []) ++ n.whole ++
    (match n.places with
      | none => []
      | some places => '.' :: places) ++
    (match n.exponent with
      | none => []
      | some (negative, digits) => 'e' :: (if negative then ['-'] else []) ++ digits)

mutual

def writeChars : Json → List Char
  | .null => "null".toList
  | .bool true => "true".toList
  | .bool false => "false".toList
  | .number literal => writeNumber literal
  | .string content => writeString content
  | .array items => '[' :: writeItems items ++ [']']
  | .object members => '{' :: writeMembers members ++ ['}']

def writeItems : List Json → List Char
  | [] => []
  | [v] => writeChars v
  | v :: rest => writeChars v ++ ',' :: writeItems rest

def writeMembers : List (StringLiteral × Json) → List Char
  | [] => []
  | [(key, v)] => writeString key ++ ':' :: writeChars v
  | (key, v) :: rest => writeString key ++ ':' :: writeChars v ++ ',' :: writeMembers rest

end

def write (v : Json) : String :=
  String.ofList (writeChars v)

end LightningDeposit.Json
