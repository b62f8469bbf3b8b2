import LightningDeposit.Json.Basic

/-!
From characters to tokens, one character at a time. The state says inside what the next character
stands; a word or a number ends where a character comes that cannot continue it.
-/

namespace LightningDeposit.Json

/-- A bracket, a separator, or a value without parts. -/
inductive Token where
  | arrayStart
  | arrayEnd
  | objectStart
  | objectEnd
  | colon
  | comma
  | scalar (value : Json)

/-- A part of a string literal: a character, or a UTF-16 unit given by its number. -/
inductive Piece where
  | char (c : Char)
  | unit (n : Nat)

def isHighSurrogate (n : Nat) : Bool := decide (0xD800 ≤ n ∧ n < 0xDC00)

def isLowSurrogate (n : Nat) : Bool := decide (0xDC00 ≤ n ∧ n < 0xE000)

/-- Joins the pieces of a literal, the latest first, in front of the characters after them. A low
surrogate needs a high one right before it, and a high one is nothing by itself. -/
def joinPieces : List Piece → List Char → Option (List Char)
  | [], chars => some chars
  | .char c :: rest, chars => joinPieces rest (c :: chars)
  | .unit low :: .unit high :: rest, chars =>
    if isLowSurrogate low then
      if isHighSurrogate high then
        joinPieces rest
          (Char.ofNat (0x10000 + (high - 0xD800) * 0x400 + (low - 0xDC00)) :: chars)
      else none
    else if isHighSurrogate low then none
    else joinPieces (.unit high :: rest) (Char.ofNat low :: chars)
  | .unit n :: rest, chars =>
    if isLowSurrogate n || isHighSurrogate n then none
    else joinPieces rest (Char.ofNat n :: chars)

def literalOfPieces (pieces : List Piece) : StringLiteral :=
  (joinPieces pieces []).map String.ofList

/-- Inside what the next character stands. What has been read of it comes latest first. -/
inductive LexMode where
  | between
  | word (read : List Char)
  | number (read : List Char)
  | string (read : List Piece)
  | escape (read : List Piece)
  | unit (read : List Piece) (due : Nat) (value : Nat)

/-- The tokens read so far, the latest first. -/
structure Lexer where
  tokens : List Token
  mode : LexMode

def isSpace (c : Char) : Bool :=
  c == ' ' || c == '\t' || c == '\n' || c == '\r'

def isNumberChar (c : Char) : Bool :=
  c.isDigit || c == '-' || c == '+' || c == '.' || c == 'e' || c == 'E'

def hexValue? (c : Char) : Option Nat :=
  let n := c.toNat
  if 48 ≤ n ∧ n ≤ 57 then some (n - 48)
  else if 97 ≤ n ∧ n ≤ 102 then some (n - 87)
  else if 65 ≤ n ∧ n ≤ 70 then some (n - 55)
  else none

/-- What a backslash and this character stand for; `u` is no such escape. -/
def escaped? (c : Char) : Option Char :=
  if c = '"' ∨ c = '\\' ∨ c = '/' then some c
  else if c = 'b' then some (Char.ofNat 8)
  else if c = 'f' then some (Char.ofNat 12)
  else if c = 'n' then some '\n'
  else if c = 'r' then some '\r'
  else if c = 't' then some '\t'
  else none

def wordValue? (s : List Char) : Option Json :=
  if s = "null".toList then some .null
  else if s = "true".toList then some (.bool true)
  else if s = "false".toList then some (.bool false)
  else none

namespace NumberLiteral

/-- The sign and digits of an exponent, after its letter. -/
def exponent? : List Char → Option (Bool × List Char)
  | '-' :: digits => if digits ≠ [] ∧ digits.all Char.isDigit then some (true, digits) else none
  | '+' :: digits => if digits ≠ [] ∧ digits.all Char.isDigit then some (false, digits) else none
  | digits => if digits ≠ [] ∧ digits.all Char.isDigit then some (false, digits) else none

/-- What may follow the whole part and its places. -/
def tail? (negative : Bool) (whole : List Char) (places : Option (List Char)) :
    List Char → Option NumberLiteral
  | [] => some ⟨negative, whole, places, none⟩
  | e :: rest =>
    if e = 'e' ∨ e = 'E' then
      (exponent? rest).map fun exponent => ⟨negative, whole, places, some exponent⟩
    else none

/-- A number without its sign. A zero stands alone in front of the point, and a point is followed
by a digit. -/
def unsigned? (negative : Bool) (s : List Char) : Option NumberLiteral :=
  let whole := s.takeWhile Char.isDigit
  if whole = [] ∨ (whole.head? = some '0' ∧ whole ≠ ['0']) then none
  else
    match s.dropWhile Char.isDigit with
    | '.' :: after =>
      let places := after.takeWhile Char.isDigit
      if places = [] then none
      else tail? negative whole (some places) (after.dropWhile Char.isDigit)
    | rest => tail? negative whole none rest

def ofChars? : List Char → Option NumberLiteral
  | '-' :: rest => unsigned? true rest
  | s => unsigned? false s

end NumberLiteral

namespace Lexer

def push (lexer : Lexer) (token : Token) : Lexer :=
  ⟨token :: lexer.tokens, .between⟩

/-- Ends a word or a number; a string that is not closed has no end. -/
def finish (lexer : Lexer) : Option Lexer :=
  match lexer.mode with
  | .between => some lexer
  | .word read => (wordValue? read.reverse).map fun value => lexer.push (.scalar value)
  | .number read =>
    (NumberLiteral.ofChars? read.reverse).map fun literal => lexer.push (.scalar (.number literal))
  | _ => none

/-- A character between tokens. -/
def start (lexer : Lexer) (c : Char) : Option Lexer :=
  if isSpace c then some lexer
  else if c = '[' then some (lexer.push .arrayStart)
  else if c = ']' then some (lexer.push .arrayEnd)
  else if c = '{' then some (lexer.push .objectStart)
  else if c = '}' then some (lexer.push .objectEnd)
  else if c = ':' then some (lexer.push .colon)
  else if c = ',' then some (lexer.push .comma)
  else if c = '"' then some ⟨lexer.tokens, .string []⟩
  else if c = '-' ∨ c.isDigit then some ⟨lexer.tokens, .number [c]⟩
  else if c.isLower then some ⟨lexer.tokens, .word [c]⟩
  else none

/-- A character inside a string; controls must be escaped there. -/
def inString (lexer : Lexer) (read : List Piece) (c : Char) : Option Lexer :=
  if c = '"' then some (lexer.push (.scalar (.string (literalOfPieces read))))
  else if c = '\\' then some ⟨lexer.tokens, .escape read⟩
  else if c.toNat < 0x20 then none
  else some ⟨lexer.tokens, .string (.char c :: read)⟩

def step (lexer : Lexer) (c : Char) : Option Lexer :=
  match lexer.mode with
  | .between => lexer.start c
  | .word read =>
    if c.isLower then some ⟨lexer.tokens, .word (c :: read)⟩
    else lexer.finish.bind fun next => next.start c
  | .number read =>
    if isNumberChar c then some ⟨lexer.tokens, .number (c :: read)⟩
    else lexer.finish.bind fun next => next.start c
  | .string read => lexer.inString read c
  | .escape read =>
    if c = 'u' then some ⟨lexer.tokens, .unit read 4 0⟩
    else (escaped? c).map fun e => ⟨lexer.tokens, .string (.char e :: read)⟩
  | .unit read due value =>
    (hexValue? c).map fun digit =>
      if due = 1 then ⟨lexer.tokens, .string (.unit (value * 16 + digit) :: read)⟩
      else ⟨lexer.tokens, .unit read (due - 1) (value * 16 + digit)⟩

end Lexer

/-- The tokens of a whole text. -/
def tokens? (s : List Char) : Option (List Token) := do
  let last ← s.foldlM Lexer.step ⟨[], .between⟩
  let lexer ← last.finish
  return lexer.tokens.reverse

end LightningDeposit.Json
