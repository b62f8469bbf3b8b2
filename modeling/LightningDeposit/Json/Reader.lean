import LightningDeposit.Json.Lexer

/-!
From tokens to a value. The reader keeps the open containers around its place, so a text nested
to any depth is read in one pass over its tokens.
-/

namespace LightningDeposit.Json

/-- An open container whose next value is being read, with what came before it, latest first. -/
inductive Frame where
  | item (before : List Json)
  | member (before : List (StringLiteral × Json)) (key : StringLiteral)

/-- What is due next. -/
inductive Reader where
  | value (around : List Frame)
  | firstItem (around : List Frame)
  | afterItem (items : List Json) (around : List Frame)
  | firstKey (around : List Frame)
  | nextKey (members : List (StringLiteral × Json)) (around : List Frame)
  | colon (members : List (StringLiteral × Json)) (key : StringLiteral) (around : List Frame)
  | afterMember (members : List (StringLiteral × Json)) (around : List Frame)
  | finished (result : Json)

namespace Reader

/-- Puts a complete value into the innermost open container. -/
def fill (v : Json) : List Frame → Reader
  | [] => .finished v
  | .item before :: around => .afterItem (v :: before) around
  | .member before key :: around => .afterMember ((key, v) :: before) around

/-- The first token of a value. -/
def start (around : List Frame) : Token → Option Reader
  | .scalar v => some (fill v around)
  | .arrayStart => some (.firstItem around)
  | .objectStart => some (.firstKey around)
  | _ => none

def step : Reader → Token → Option Reader
  | .value around, token => start around token
  | .firstItem around, .arrayEnd => some (fill (.array []) around)
  | .firstItem around, token => start (.item [] :: around) token
  | .afterItem items around, .comma => some (.value (.item items :: around))
  | .afterItem items around, .arrayEnd => some (fill (.array items.reverse) around)
  | .firstKey around, .objectEnd => some (fill (.object []) around)
  | .firstKey around, .scalar (.string key) => some (.colon [] key around)
  | .nextKey members around, .scalar (.string key) => some (.colon members key around)
  | .colon members key around, .colon => some (.value (.member members key :: around))
  | .afterMember members around, .comma => some (.nextKey members around)
  | .afterMember members around, .objectEnd => some (fill (.object members.reverse) around)
  | _, _ => none

end Reader

def ofTokens? (tokens : List Token) : Option Json := do
  match ← tokens.foldlM Reader.step (.value []) with
  | .finished v => some v
  | _ => none

/-- Reads a text that holds one value and nothing else but white space. -/
def parse? (s : String) : Option Json :=
  (tokens? s.toList).bind ofTokens?

end LightningDeposit.Json
