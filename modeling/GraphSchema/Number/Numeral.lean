import GraphSchema.Number.Binary64
import GraphSchema.Text.Blank
import GraphSchema.Text.Case

/-! Numerals in text: integers and floating point numbers, with blanks around them and underscores
within. -/
namespace GraphSchema.Numeral
open Text

def isDigit (c : Char) : Bool := '0' ≤ c && c ≤ '9'

def digitsValue (cs : List Char) : Nat :=
  cs.foldl (fun n c => 10 * n + (c.toNat - 48)) 0

/-- The number with the given digits before and after the point, times a power of ten. -/
def ofParts (negative : Bool) (whole fraction : List Char) (power : Int) : Binary64 :=
  Binary64.ofDecimal negative (digitsValue (whole ++ fraction)) (power - fraction.length)

/-- A sign at the front: whether it is a minus, and what follows it. -/
def readSign : List Char → Bool × List Char
  | '-' :: cs => (true, cs)
  | '+' :: cs => (false, cs)
  | cs => (false, cs)

/-- What a text says as an integer. -/
inductive IntegerReading where
  | integer (n : Int)
  | tooLong
  | unclear
  deriving DecidableEq, Repr

/-- The most characters that a sign and the digits behind it may take. -/
def longestInteger : Nat := 4300

/-- A minus or nothing, then a lone zero or digits that do not start with one. A run of digits that
is too long is told, whatever follows it. -/
def readPlainInteger (cs : List Char) : IntegerReading :=
  let negative := cs.head? == some '-'
  let digits := if negative then cs.tail else cs
  let run := digits.takeWhile isDigit
  match digits with
  | ['0'] => .integer 0
  | '0' :: _ => .unclear
  | _ =>
    if longestInteger < run.length + (cs.length - digits.length) then .tooLong
    else if run.isEmpty || run.length ≠ digits.length then .unclear
    else .integer (if negative then -(digitsValue run : Int) else digitsValue run)

/-- What follows zeros and underscores, the last of which is given. A minus may stand there, and
nothing but a point or the end calls for the last of them. -/
def afterZeros (last : Char) : List Char → Option (List Char)
  | [] => some [last]
  | c :: cs =>
    if c = '0' || c = '_' then afterZeros c cs
    else if c = '.' then some (last :: c :: cs)
    else if isDigit c || c = '-' then some (c :: cs)
    else none

def dropLeadingZeros : List Char → Option (List Char)
  | [] => none
  | c :: cs => if c = '0' then afterZeros c cs else if isDigit c then some (c :: cs) else none

/-- Leaves out a point with zeros, and nothing else, behind it. -/
def dropZeroFraction (cs : List Char) : List Char :=
  match cs.dropWhile (· ≠ '.') with
  | _ :: zeros =>
    if !zeros.isEmpty && zeros.all (· = '0') then cs.takeWhile (· ≠ '.') else cs
  | [] => cs

def hasDoubleUnderscore : List Char → Bool
  | '_' :: '_' :: _ => true
  | _ :: cs => hasDoubleUnderscore cs
  | [] => false

/-- Takes out underscores; none may stand at either end or beside another. -/
def dropUnderscores (cs : List Char) : Option (List Char) :=
  if cs.head? = some '_' ∨ cs.getLast? = some '_' ∨ hasDoubleUnderscore cs then none
  else some (cs.filter (· ≠ '_'))

/-- The digits that a text with blanks, leading zeros, a zero fraction or underscores stands for. -/
def tidyDigits (cs : List Char) : Option (List Char) :=
  (dropLeadingZeros cs).bind fun digits => dropUnderscores (dropZeroFraction digits)

/-- The plain form of an integer in text. -/
def tidyInteger (cs : List Char) : Option (List Char) :=
  match trim isWhiteSpace cs with
  | '+' :: cs => if cs.head? = some '-' then none else tidyDigits cs
  | '-' :: cs => (tidyDigits cs).map ('-' :: ·)
  | cs => tidyDigits cs

def readInteger (cs : List Char) : IntegerReading :=
  match readPlainInteger cs with
  | .unclear => ((tidyInteger cs).map readPlainInteger).getD .unclear
  | r => r

/-- The power of ten at the end of a numeral. -/
def readPower : List Char → Option Int
  | [] => some 0
  | c :: cs =>
    if c = 'e' || c = 'E' then
      let (negative, digits) := readSign cs
      if digits.isEmpty || !digits.all isDigit then none
      else some (if negative then -(digitsValue digits : Int) else digitsValue digits)
    else none

def readUnsigned (negative : Bool) (cs : List Char) : Option Binary64 :=
  let word := String.ofList (cs.map lowerAscii)
  if word = "inf" ∨ word = "infinity" then some (.infinite negative)
  else if word = "nan" then some .nan
  else
    let whole := cs.takeWhile isDigit
    let rest := cs.dropWhile isDigit
    let (fraction, rest) :=
      match rest with
      | '.' :: more => (more.takeWhile isDigit, more.dropWhile isDigit)
      | _ => ([], rest)
    if whole.isEmpty && fraction.isEmpty then none
    else (readPower rest).map (ofParts negative whole fraction)

def readSigned (cs : List Char) : Option Binary64 :=
  let (negative, cs) := readSign cs
  readUnsigned negative cs

/-- Blanks may stand around a number, or underscores within it. -/
def readFloat (cs : List Char) : Option Binary64 :=
  match readSigned (trim isWhiteSpace cs) with
  | some x => some x
  | none => (dropUnderscores cs).bind readSigned

end GraphSchema.Numeral
