/-!
Percent signs and two hexadecimal digits for the bytes of characters that a part of an address
cannot hold, and the way back.
-/

namespace LightningDeposit.Url

/-- Controls, and all that is not ASCII. -/
def needsControlEscape (c : Char) : Bool :=
  decide (c.toNat < 0x20 ∨ 0x7E < c.toNat)

def needsQueryEscape (special : Bool) (c : Char) : Bool :=
  needsControlEscape c || c == ' ' || c == '"' || c == '#' || c == '<' || c == '>' ||
    (special && c == '\'')

def needsFragmentEscape (c : Char) : Bool :=
  needsControlEscape c || c == ' ' || c == '"' || c == '<' || c == '>' || c.toNat == 0x60

def needsPathEscape (c : Char) : Bool :=
  needsControlEscape c || c == ' ' || c == '"' || c == '#' || c == '<' || c == '>' || c == '?' ||
    c.toNat == 0x60 || c == '{' || c == '}'

def needsUserEscape (c : Char) : Bool :=
  needsPathEscape c || c == '/' || c == ':' || c == ';' || c == '=' || c == '@' || c == '[' ||
    c == '\\' || c == ']' || c == '^' || c == '|'

def upperHexDigit (n : Nat) : Char :=
  if n < 10 then Char.ofNat (48 + n) else Char.ofNat (55 + n)

def percentByte (b : UInt8) : List Char :=
  ['%', upperHexDigit (b.toNat / 16), upperHexDigit (b.toNat % 16)]

def escapeChar (needs : Char → Bool) (c : Char) : List Char :=
  if needs c then (String.utf8EncodeChar c).flatMap percentByte else [c]

def escape (needs : Char → Bool) (s : List Char) : String :=
  String.ofList (s.flatMap (escapeChar needs))

def hexDigit? (c : Char) : Option Nat :=
  if c.isDigit then some (c.toNat - 48)
  else if 'a' ≤ c ∧ c ≤ 'f' then some (c.toNat - 87)
  else if 'A' ≤ c ∧ c ≤ 'F' then some (c.toNat - 55)
  else none

/-- The bytes of a text in which two hexadecimal digits after a percent sign stand for a byte; any
other percent sign stands for itself. -/
def unescape : List Char → List UInt8
  | '%' :: a :: b :: rest =>
    match hexDigit? a, hexDigit? b with
    | some high, some low => UInt8.ofNat (high * 16 + low) :: unescape rest
    | _, _ => String.utf8EncodeChar '%' ++ unescape (a :: b :: rest)
  | c :: rest => String.utf8EncodeChar c ++ unescape rest
  | [] => []

end LightningDeposit.Url
