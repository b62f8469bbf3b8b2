/-!
Reading bytes as UTF-8 with replacements: each longest run of bytes that begins a character but
does not complete one becomes U+FFFD, and each byte that begins none does too.
-/

namespace LightningDeposit.Text

/-- A character under way: the bits read so far, the number of continuation bytes still due, and
the range in which the next one must lie. -/
structure Utf8Lead where
  bits : Nat
  due : Nat
  low : Nat
  high : Nat

def replacement : Char := Char.ofNat 0xFFFD

/-- What a byte at the start of a character begins, or the character that it is by itself. -/
def utf8Start (b : Nat) : Utf8Lead ⊕ Char :=
  if b < 0x80 then .inr (Char.ofNat b)
  else if 0xC2 ≤ b ∧ b ≤ 0xDF then .inl ⟨b % 0x20, 1, 0x80, 0xBF⟩
  else if b = 0xE0 then .inl ⟨0, 2, 0xA0, 0xBF⟩
  else if b = 0xED then .inl ⟨0xD, 2, 0x80, 0x9F⟩
  else if 0xE1 ≤ b ∧ b ≤ 0xEF then .inl ⟨b % 0x10, 2, 0x80, 0xBF⟩
  else if b = 0xF0 then .inl ⟨0, 3, 0x90, 0xBF⟩
  else if 0xF1 ≤ b ∧ b ≤ 0xF3 then .inl ⟨b % 8, 3, 0x80, 0xBF⟩
  else if b = 0xF4 then .inl ⟨4, 3, 0x80, 0x8F⟩
  else .inr replacement

/-- A byte with no character under way. -/
def utf8Fresh (out : List Char) (b : Nat) : List Char × Option Utf8Lead :=
  match utf8Start b with
  | .inr c => (c :: out, none)
  | .inl lead => (out, some lead)

/-- One byte of the text; `out` holds the characters read, the latest first. -/
def utf8Step : List Char × Option Utf8Lead → UInt8 → List Char × Option Utf8Lead
  | (out, none), byte => utf8Fresh out byte.toNat
  | (out, some lead), byte =>
    let b := byte.toNat
    if lead.low ≤ b ∧ b ≤ lead.high then
      let bits := lead.bits * 0x40 + b % 0x40
      if lead.due = 1 then (Char.ofNat bits :: out, none)
      else (out, some ⟨bits, lead.due - 1, 0x80, 0xBF⟩)
    else utf8Fresh (replacement :: out) b

/-- The text of arbitrary bytes. -/
def ofBytesLossy (bytes : ByteArray) : String :=
  match bytes.data.toList.foldl utf8Step ([], none) with
  | (out, none) => String.ofList out.reverse
  | (out, some _) => String.ofList (replacement :: out).reverse

end LightningDeposit.Text
