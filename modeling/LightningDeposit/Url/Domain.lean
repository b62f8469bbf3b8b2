import LightningDeposit.Text.Canonical
import LightningDeposit.Url.Domain.Direction
import LightningDeposit.Url.Domain.Disallowed
import LightningDeposit.Url.Domain.Joining
import LightningDeposit.Url.Domain.Replacement
import LightningDeposit.Url.Percent
import LightningDeposit.Url.Punycode

/-!
Domain names in ASCII. A name is brought into one form, its labels are checked, and labels of other
scripts get a code of their own.
-/

namespace LightningDeposit.Url

/-- Splits at every character that satisfies `p`; there is always one part. -/
def splitOn (p : Char → Bool) : List Char → List (List Char)
  | [] => [[]]
  | c :: rest =>
    if p c then [] :: splitOn p rest
    else
      match splitOn p rest with
      | part :: parts => (c :: part) :: parts
      | [] => [[c]]

namespace Domain

def isAscii (c : Char) : Bool := decide (c.toNat < 0x80)

/-- What a name holds in place of a character, if the character may be there at all. -/
def fold? (c : Char) : Option (List Char) :=
  if isAscii c then some [c.toLower]
  else if isIgnored c then some []
  else
    match replacement? c with
    | some text => some text
    | none => if isDisallowed c then none else some [c]

/-- What no name holds of ASCII. -/
def isForbidden (c : Char) : Bool :=
  decide (c.toNat ≤ 0x20 ∨ c.toNat = 0x7F) || "%#/:<>?@[\\]^|".toList.contains c

/-- A name in its one form. -/
def folded? (s : List Char) : Option (List Char) :=
  (s.mapM fold?).map fun texts => Text.canonical texts.flatten

/-- A label starts with no mark and has every joiner where it may be. -/
def isWellFormed (label : List Char) : Bool :=
  !label.any isForbidden && !label.head?.any Text.isMark && joinersFit [] label

/-- What the code of a label of another script starts with. -/
def codeMark : List Char := "xn--".toList

/-- Codes and labels above these lengths are not worked on. -/
def maxCode : Nat := 2000

def maxCoded : Nat := 1000

/-- The characters that a code stands for: not all of ASCII, and a label in its one form. -/
def decoded? (code : List Char) : Option (List Char) :=
  if code.length ≤ maxCode then
    (Punycode.decode? code).bind fun label =>
      if !label.all isAscii && folded? label = some label then some label else none
  else none

/-- A label is well formed and, if it is of another script, no longer than is worked on. -/
def isFit (label : List Char) : Bool :=
  isWellFormed label && (label.all isAscii || decide (label.length ≤ maxCoded))

/-- The characters of a label, and the label in ASCII. -/
def label? (label : List Char) : Option (List Char × List Char) :=
  if codeMark.isPrefixOf label then
    if label.all isAscii then
      (decoded? (label.drop codeMark.length)).bind fun shown =>
        if isFit shown then some (shown, label) else none
    else none
  else if isFit label then
    some (label, if label.all isAscii then label else codeMark ++ Punycode.encode label)
  else none

/-- The ASCII form of a name. -/
def ascii? (name : List Char) : Option (List Char) := do
  let folded ← folded? name
  let labels ← (splitOn (· == '.') folded).mapM label?
  if (labels.any fun (shown, _) => shown.any needsBothDirections) &&
      !labels.all fun (shown, _) => isFitForBothDirections shown then none
  else some (['.'].intercalate (labels.map Prod.snd))

end Domain

/-- The ASCII form of a domain name with escaped bytes. -/
def domain? (s : List Char) : Option (List Char) := do
  let name ← String.fromUTF8? (ByteArray.mk (unescape s).toArray)
  Domain.ascii? name.toList

end LightningDeposit.Url
