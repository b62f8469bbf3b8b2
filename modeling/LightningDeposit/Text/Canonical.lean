import LightningDeposit.Text.Canonical.Class
import LightningDeposit.Text.Canonical.Table

/-!
One form for texts that only differ in how characters are put together. Characters are taken apart
as far as they go, marks are put in the order of their classes, and what can be put together is.
-/

namespace LightningDeposit.Text

/-! Hangul syllables are put together by arithmetic: a leading letter, a vowel and perhaps a
trailing letter. -/

def hangulLead : Nat := 0x1100
def hangulVowel : Nat := 0x1161
def hangulTrail : Nat := 0x11A7
def hangulSyllable : Nat := 0xAC00
def hangulLeads : Nat := 19
def hangulVowels : Nat := 21
def hangulTrails : Nat := 28

/-- The two parts of a syllable: without a trailing letter, a leading letter and a vowel. -/
def hangulParts (index : Nat) : List Char :=
  if index % hangulTrails = 0 then
    [Char.ofNat (hangulLead + index / hangulTrails / hangulVowels),
      Char.ofNat (hangulVowel + index / hangulTrails % hangulVowels)]
  else
    [Char.ofNat (hangulSyllable + index / hangulTrails * hangulTrails),
      Char.ofNat (hangulTrail + index % hangulTrails)]

def composeHangul? (a b : Nat) : Option Nat :=
  if hangulLead ≤ a ∧ a < hangulLead + hangulLeads ∧
      hangulVowel ≤ b ∧ b < hangulVowel + hangulVowels then
    some (hangulSyllable + ((a - hangulLead) * hangulVowels + (b - hangulVowel)) * hangulTrails)
  else if hangulSyllable ≤ a ∧ a < hangulSyllable + hangulLeads * hangulVowels * hangulTrails ∧
      (a - hangulSyllable) % hangulTrails = 0 ∧ hangulTrail < b ∧
      b < hangulTrail + hangulTrails then
    some (a + (b - hangulTrail))
  else none

def pairOf? (n : Nat) : List (Nat × Nat × Nat) → Option (List Char)
  | [] => none
  | (composite, first, second) :: rest =>
    if composite = n then some [Char.ofNat first, Char.ofNat second] else pairOf? n rest

def singletonOf? (n : Nat) : List (Nat × String) → Option (List Char)
  | [] => none
  | (first, text) :: rest =>
    if n < first then none
    else
      match text.toList[n - first]? with
      | some c => some [c]
      | none => singletonOf? n rest

/-- A character taken apart once. -/
def parts (c : Char) : List Char :=
  let n := c.toNat
  if n < 0xC0 then [c]
  else if hangulSyllable ≤ n ∧ n < hangulSyllable + hangulLeads * hangulVowels * hangulTrails then
    hangulParts (n - hangulSyllable)
  else
    ((pairOf? n composites).or ((pairOf? n brokenPairs).or (singletonOf? n singletonRuns))).getD [c]

/-- Nothing is left to take apart after three times. -/
def decompose (s : List Char) : List Char :=
  ((s.flatMap parts).flatMap parts).flatMap parts

/-- Puts a mark in its place among the marks at the end of a text, the latest first. Marks of the
same class keep their order. -/
def insertMark (cls : Nat) (c : Char) : List Char → List Char
  | [] => [c]
  | last :: before =>
    if cls < combiningClass last then last :: insertMark cls c before else c :: last :: before

/-- A text whose marks are in the order of their classes. -/
def reorder (s : List Char) : List Char :=
  (s.foldl (fun before c =>
    let cls := combiningClass c
    if cls = 0 then c :: before else insertMark cls c before) []).reverse

def compositeIn? (a b : Nat) : List (Nat × Nat × Nat) → Option Nat
  | [] => none
  | (composite, first, second) :: rest =>
    if first = a ∧ second = b then some composite else compositeIn? a b rest

/-- The character that two characters become. -/
def composite? (a b : Char) : Option Char :=
  ((composeHangul? a.toNat b.toNat).or (compositeIn? a.toNat b.toNat composites)).map Char.ofNat

/-- A text while it is put together: what is done, the last character that others can join, and the
marks after it that did not; both lists have the latest first. -/
structure Composer where
  done : List Char
  base : Option Char
  marks : List Char

namespace Composer

def start : Composer := ⟨[], none, []⟩

/-- Leaves the base as it is; a character of class zero becomes the next one. -/
def settle (k : Composer) (c : Char) : Composer :=
  if combiningClass c = 0 then
    ⟨k.marks ++ k.base.toList ++ k.done, some c, []⟩
  else { k with marks := c :: k.marks }

/-- A mark is kept from the base by one of its own class or a higher one in between. -/
def step (k : Composer) (c : Char) : Composer :=
  let blocked := k.marks.head?.any fun last => decide (combiningClass c ≤ combiningClass last)
  if blocked then k.settle c
  else
    match k.base.bind fun base => composite? base c with
    | some joined => { k with base := some joined }
    | none => k.settle c

def finish (k : Composer) : List Char :=
  (k.marks ++ k.base.toList ++ k.done).reverse

end Composer

def compose (s : List Char) : List Char :=
  (s.foldl Composer.step Composer.start).finish

/-- The one form of a text. Below U+0300 there is nothing to take apart for good, and no mark. -/
def canonical (s : List Char) : List Char :=
  if s.all fun c => decide (c.toNat < 0x300) then s else compose (reorder (decompose s))

end LightningDeposit.Text
