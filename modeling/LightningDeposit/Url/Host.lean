import LightningDeposit.Url.Basic
import LightningDeposit.Url.Domain

/-!
Reading hosts: numbers of four or sixteen bytes, and domain names in their ASCII form.
-/

namespace LightningDeposit.Url

def valueInBase (base : Nat) (digits : List Char) : Option Nat :=
  digits.foldlM (fun n c => (hexDigit? c).bind fun d =>
    if d < base then some (n * base + d) else none) 0

/-- A part of a number of four bytes: hexadecimal after `0x`, octal after another zero, or
decimal. -/
def ipv4Part? : List Char → Option Nat
  | [] => none
  | '0' :: 'x' :: rest => valueInBase 16 rest
  | '0' :: 'X' :: rest => valueInBase 16 rest
  | '0' :: rest@(_ :: _) => valueInBase 8 rest
  | s => valueInBase 10 s

def dropFinalEmpty (parts : List (List Char)) : List (List Char) :=
  if parts.getLast? = some [] then parts.dropLast else parts

/-- A name whose last label is a number is an address of four bytes or nothing. -/
def endsInNumber (name : List Char) : Bool :=
  match (dropFinalEmpty (splitOn (· == '.') name)).getLast? with
  | none => false
  | some last => (last ≠ [] && last.all Char.isDigit) || (ipv4Part? last).isSome

/-- The last of one to four parts fills the bytes that the others leave. -/
def ipv4? (name : List Char) : Option Nat := do
  let parts := dropFinalEmpty (splitOn (· == '.') name)
  let numbers ← parts.mapM ipv4Part?
  let last ← numbers.getLast?
  let front := numbers.dropLast
  if parts.length ≤ 4 ∧ front.all (fun n => decide (n < 256)) ∧
      last < Nat.pow 256 (4 - front.length) then
    some (front.zipIdx.foldl (fun sum (n, i) => sum + n * Nat.pow 256 (3 - i)) last)
  else none

/-- A piece of an address of sixteen bytes: up to four hexadecimal digits. -/
def ipv6Piece? (s : List Char) : Option Nat :=
  if s = [] ∨ 4 < s.length then none else valueInBase 16 s

/-- The two last pieces may be written as four decimal bytes without leading zeros. -/
def ipv6Tail? (s : List Char) : Option (List Nat) :=
  let bytes := (splitOn (· == '.') s).map fun part =>
    if part = [] ∨ 3 < part.length ∨ (part.head? = some '0' ∧ part ≠ ['0']) then none
    else (valueInBase 10 part).bind fun n => if n < 256 then some n else none
  match bytes with
  | [some a, some b, some c, some d] => some [a * 256 + b, c * 256 + d]
  | _ => none

/-- Pieces between colons. -/
def ipv6Pieces? : List (List Char) → Option (List Nat)
  | [] => some []
  | [last] =>
    if last.contains '.' then ipv6Tail? last else (ipv6Piece? last).map fun piece => [piece]
  | part :: rest => do
    let piece ← ipv6Piece? part
    let pieces ← ipv6Pieces? rest
    return piece :: pieces

/-- Splits before and after the first pair of colons. -/
def splitDoubleColon : List Char → Option (List Char × List Char)
  | ':' :: ':' :: rest => some ([], rest)
  | c :: rest => (splitDoubleColon rest).map fun (before, after) => (c :: before, after)
  | [] => none

def ipv6Side? (s : List Char) : Option (List Nat) :=
  if s = [] then some [] else ipv6Pieces? (splitOn (· == ':') s)

/-- Eight pieces; a pair of colons stands for the zeros that are missing, at least one. -/
def ipv6? (s : List Char) : Option (List Nat) :=
  match splitDoubleColon s with
  | some (before, after) => do
    let left ← ipv6Side? before
    let right ← ipv6Side? after
    if left.length + right.length < 8 ∧ ¬before.contains '.' then
      some (left ++ List.replicate (8 - left.length - right.length) 0 ++ right)
    else none
  | none => do
    let pieces ← ipv6Side? s
    if pieces.length = 8 then some pieces else none

def isForbiddenInHost (c : Char) : Bool :=
  c.toNat == 0 || "\t\n\r #/:<>?@[\\]^|".toList.contains c

def bracketed? (s : List Char) : Except UrlError Host :=
  if s.getLast? = some ']' then
    match ipv6? (s.drop 1).dropLast with
    | some pieces => .ok (.ipv6 pieces)
    | none => .error .invalidIpv6
  else .error .invalidIpv6

/-- The host of an address whose scheme is special or not. -/
def parseHost (special : Bool) (s : List Char) : Except UrlError Host :=
  if s.head? = some '[' then bracketed? s
  else if special then
    match domain? s with
    | none => .error .invalidDomainName
    | some name =>
      if name = [] then .error .emptyHost
      else if endsInNumber name then
        match ipv4? name with
        | some n => .ok (.ipv4 n)
        | none => .error .invalidIpv4
      else .ok (.name (String.ofList name))
  else if s.any isForbiddenInHost then .error .invalidDomainCharacter
  else .ok (.name (escape needsControlEscape s))

end LightningDeposit.Url
