import GraphSchema.Text.CodePoint
import GraphSchema.Text.Printable

/-! Quoted text: apostrophes around it, and escapes for what cannot be shown. -/
namespace GraphSchema.Text

def hexDigit (n : Nat) : Char := if n < 10 then Char.ofNat (48 + n) else Char.ofNat (87 + n)

/-- The lowest `width` hexadecimal digits of a number. -/
def hex : (width : Nat) → Nat → List Char
  | 0, _ => []
  | w + 1, n => hex w (n / 16) ++ [hexDigit (n % 16)]

/-- An escape of two, four or eight digits, whichever is the first to hold the code point. -/
def escapeCode (n : Nat) : List Char :=
  if n < 0x100 then '\\' :: 'x' :: hex 2 n
  else if n < 0x10000 then '\\' :: 'u' :: hex 4 n
  else '\\' :: 'U' :: hex 8 n

def escapeIn (mark : Char) (c : Char) : List Char :=
  if c = mark || c = '\\' then ['\\', c]
  else if c = '\n' then ['\\', 'n']
  else if c = '\r' then ['\\', 'r']
  else if c = '\t' then ['\\', 't']
  else if isPrintable c then [c]
  else escapeCode (codePoint c)

/-- Double quotes stand around a text that holds an apostrophe and no double quote. -/
def quoteMark (cs : List Char) : Char :=
  if cs.contains '\'' && !cs.contains '"' then '"' else '\''

def quote (cs : List Char) : List Char :=
  let mark := quoteMark cs
  mark :: cs.flatMap (escapeIn mark) ++ [mark]

end GraphSchema.Text
