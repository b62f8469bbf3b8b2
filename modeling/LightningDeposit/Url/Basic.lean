/-!
Addresses: a scheme, an authority, a path, a query and a fragment, each held as it is written.
-/

namespace LightningDeposit

inductive Host where
  | name (text : String)
  | ipv4 (number : Nat)
  | ipv6 (pieces : List Nat)
  deriving DecidableEq

/-- A path of segments below the root, or a text without structure. -/
inductive UrlPath where
  | segments (segments : List String)
  | text (text : String)
  deriving DecidableEq

structure Url where
  scheme : String
  username : String
  password : String
  host : Option Host
  port : Option Nat
  path : UrlPath
  query : Option String
  fragment : Option String
  deriving DecidableEq

/-- Why a text is no address. -/
inductive UrlError where
  | relativeWithoutBase
  | emptyHost
  | invalidPort
  | invalidIpv4
  | invalidIpv6
  | invalidDomainName
  | invalidDomainCharacter
  | noBasePath
  deriving DecidableEq

namespace UrlError

def message : UrlError → String
  | .relativeWithoutBase => "relative URL without a base"
  | .emptyHost => "empty host"
  | .invalidPort => "invalid port number"
  | .invalidIpv4 => "invalid IPv4 address"
  | .invalidIpv6 => "invalid IPv6 address"
  | .invalidDomainName => "invalid international domain name"
  | .invalidDomainCharacter => "invalid domain character"
  | .noBasePath => "relative URL with a cannot-be-a-base base"

end UrlError

namespace Host

def ipv4Text (n : Nat) : String :=
  String.intercalate "."
    ([n / Nat.pow 256 3, n / Nat.pow 256 2 % 256, n / 256 % 256, n % 256].map fun part =>
      String.ofList (Nat.toDigits 10 part))

/-- The length of the run of zeros at the front. -/
def zeroRun (pieces : List Nat) : Nat :=
  (pieces.takeWhile (· == 0)).length

/-- Where the first longest run of zeros starts, and its length, from place `at` on. -/
def longestZeroRun (place : Nat) : List Nat → Nat × Nat
  | [] => (place, 0)
  | piece :: rest =>
    let here := zeroRun (piece :: rest)
    let later := longestZeroRun (place + 1) rest
    if later.2 ≤ here then (place, here) else later

def hexPieces (pieces : List Nat) : String :=
  String.intercalate ":" (pieces.map fun piece => String.ofList (Nat.toDigits 16 piece))

/-- Pieces in hexadecimal; the first longest run of two or more zeros is left out. -/
def ipv6Text (pieces : List Nat) : String :=
  let (start, length) := longestZeroRun 0 pieces
  if length < 2 then hexPieces pieces
  else hexPieces (pieces.take start) ++ "::" ++ hexPieces (pieces.drop (start + length))

def text : Host → String
  | .name s => s
  | .ipv4 n => ipv4Text n
  | .ipv6 pieces => "[" ++ ipv6Text pieces ++ "]"

end Host

namespace Url

/-- A scheme whose addresses have a host and a path of segments, with its usual port. -/
def specialPorts : List (String × Option Nat) :=
  [("http", some 80), ("https", some 443), ("ws", some 80), ("wss", some 443), ("ftp", some 21),
    ("file", none)]

def isSpecial (scheme : String) : Bool :=
  (specialPorts.lookup scheme).isSome

def defaultPort (scheme : String) : Option Nat :=
  (specialPorts.lookup scheme).join

def pathText : UrlPath → String
  | .segments segments => String.join (segments.map ("/" ++ ·))
  | .text s => s

def credentialsText (u : Url) : String :=
  if u.username = "" ∧ u.password = "" then ""
  else u.username ++ (if u.password = "" then "" else ":" ++ u.password) ++ "@"

def authorityText (u : Url) : String :=
  match u.host with
  | some host =>
    "//" ++ credentialsText u ++ host.text ++
      (match u.port with
        | some port => ":" ++ String.ofList (Nat.toDigits 10 port)
        | none => "")
  | none =>
    match u.path with
    | .segments ("" :: _ :: _) => "/."
    | _ => ""

def text (u : Url) : String :=
  u.scheme ++ ":" ++ u.authorityText ++ pathText u.path ++
    (match u.query with
      | some query => "?" ++ query
      | none => "") ++
    (match u.fragment with
      | some fragment => "#" ++ fragment
      | none => "")

/-- The address as a request shows it, without credentials and fragment. -/
def requested (u : Url) : Url :=
  { u with username := "", password := "", fragment := none }

end Url

end LightningDeposit
