import LightningDeposit.Text.Unprintable

/-!
Texts in double quotes, as diagnostics show them: quotes, backslashes and the usual controls have
short escapes, and what cannot be seen is written by its code point.
-/

namespace LightningDeposit.Text

/-- The escape by code point, with as few hexadecimal digits as the number needs. -/
def codePointEscape (c : Char) : List Char :=
  "\\u\x7b".toList ++ Nat.toDigits 16 c.toNat ++ "\x7d".toList

def quotedChar (c : Char) : List Char :=
  if c = '"' then "\\\"".toList
  else if c = '\\' then "\\\\".toList
  else if c = '\n' then "\\n".toList
  else if c = '\r' then "\\r".toList
  else if c = '\t' then "\\t".toList
  else if c.toNat = 0 then "\\0".toList
  else if isUnprintable c then codePointEscape c
  else [c]

def quoted (s : String) : String :=
  String.ofList ('"' :: s.toList.flatMap quotedChar ++ ['"'])

end LightningDeposit.Text
