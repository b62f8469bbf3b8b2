import LightningDeposit.Json.Number
import LightningDeposit.Text.Blank
import LightningDeposit.Text.Number
import LightningDeposit.Binary64.Reading

/-!
Reading typed data out of JSON values. A record is an object, whose unknown members are passed
over, or an array with the fields in their order; each field says what its absence means.
-/

namespace LightningDeposit.Json

def bool? : Json → Option Bool
  | .bool b => some b
  | _ => none

def string? : Json → Option String
  | .string content => content
  | _ => none

/-- A 64-bit word: a literal without sign, point or exponent. -/
def word? : Json → Option UInt64
  | .number literal =>
    match numberOfLiteral? literal with
    | some (.natural n) => some n
    | _ => none
  | _ => none

/-- A word that may also be given as the text of a numeral with white space around it. -/
def wordOrText? : Json → Option UInt64
  | .string content => content.bind fun s => Text.readWord? (Text.trimChars s.toList)
  | v => v.word?

/-- A double, or the text of a numeral with white space around it. -/
def doubleOrText? : Json → Option Binary64
  | .number literal => (numberOfLiteral? literal).map Number.toBinary64
  | .string content => content.bind fun s => Binary64.read? (Text.trimChars s.toList)
  | _ => none

/-- Null is the absent value. -/
def nullable? {α : Type} (decode : Json → Option α) : Json → Option (Option α)
  | .null => some none
  | v => (decode v).map some

/-- One of several names: a string, or an object whose only member has that key and is null. -/
def name? : Json → Option String
  | .string content => content
  | .object [(key, .null)] => key
  | _ => none

/-- What a record holds in place of a field: its value, nothing in an object, or nothing because
an array ends before it. -/
inductive Field where
  | given (v : Json)
  | missing
  | cut

namespace Field

/-- A field that must be there. -/
def required {α : Type} (decode : Json → Option α) : Field → Option α
  | .given v => decode v
  | _ => none

/-- A field that an object may lack and that may be null. -/
def optional {α : Type} (decode : Json → Option α) : Field → Option (Option α)
  | .given v => nullable? decode v
  | .missing => some none
  | .cut => none

/-- A field that takes a default where it is not given. -/
def withDefault {α : Type} (default : α) (decode : Json → Option α) : Field → Option α
  | .given v => decode v
  | _ => some default

end Field

/-- The field of that name among the members of an object. -/
def memberField (members : List (StringLiteral × Json)) (name : String) : Field :=
  match members.lookup (some name) with
  | some v => .given v
  | none => .missing

/-- The field of that name in an array, by the place of the name. -/
def itemField (names : List String) (items : List Json) (name : String) : Field :=
  match items[names.idxOf name]? with
  | some v => .given v
  | none => .cut

/-- The members of an object make up a record if every key is well formed and no known key comes
twice. -/
def isRecord (names : List String) (members : List (StringLiteral × Json)) : Bool :=
  members.all (fun (key, _) => key.isSome) &&
    names.all fun name => decide ((members.map Prod.fst).count (some name) ≤ 1)

/-- The fields of a record with these names. -/
def fields? (v : Json) (names : List String) : Option (String → Field) :=
  match v with
  | .object members => if isRecord names members then some (memberField members) else none
  | .array items => if items.length ≤ names.length then some (itemField names items) else none
  | _ => none

/-- Gives a key its value, in place if the key is there already. -/
def putMember (key : String) (v : Json) : List (String × Json) → List (String × Json)
  | [] => [(key, v)]
  | (k, w) :: rest => if k = key then (k, v) :: rest else (k, w) :: putMember key v rest

/-- One member for each key, the last one given. -/
def lastMembers (members : List (String × Json)) : List (String × Json) :=
  members.foldl (fun kept (key, v) => putMember key v kept) []

mutual

/-- A value kept as data, inside at most `room` containers of its own: every string well formed,
every number one that can be told, and one member for each key. -/
def data? (room : Nat) : Json → Option Json
  | .null => some .null
  | .bool b => some (.bool b)
  | .number literal => (numberOfLiteral? literal).bind fun n => n.literal?.map .number
  | .string content => content.map Json.text
  | .array items =>
    match room with
    | 0 => none
    | room + 1 => (dataItems? room items).map .array
  | .object members =>
    match room with
    | 0 => none
    | room + 1 => (dataMembers? room members).map fun found => record (lastMembers found)

def dataItems? (room : Nat) : List Json → Option (List Json)
  | [] => some []
  | v :: rest => (data? room v).bind fun first => (dataItems? room rest).map (first :: ·)

def dataMembers? (room : Nat) : List (StringLiteral × Json) → Option (List (String × Json))
  | [] => some []
  | (key, v) :: rest =>
    key.bind fun name => (data? room v).bind fun first =>
      (dataMembers? room rest).map ((name, first) :: ·)

end

/-- The number of containers that may be open at one place of a value that is kept. -/
def maxDepth : Nat := 127

end LightningDeposit.Json
