import GraphSchema.Data.Value
import GraphSchema.Number.Numeral

/-! Reading a value from JSON text. The first fault is reported with its place; besides the
standard's numbers the names `NaN`, `Infinity` and `-Infinity` are read. Integers have a greatest
number of digits, and lists and objects a greatest depth. -/
namespace GraphSchema.Json

inductive Fault where
  | value | name | colon | comma | extraData | openString | controlCharacter | badEscape
  | badCodeEscape | byteOrderMark
  deriving DecidableEq, Repr

def Fault.message : Fault → String
  | .value => "Expecting value"
  | .name => "Expecting property name enclosed in double quotes"
  | .colon => "Expecting ':' delimiter"
  | .comma => "Expecting ',' delimiter"
  | .extraData => "Extra data"
  | .openString => "Unterminated string starting at"
  | .controlCharacter => "Invalid control character at"
  | .badEscape => "Invalid \\escape"
  | .badCodeEscape => "Invalid \\uXXXX escape"
  | .byteOrderMark => "Unexpected UTF-8 BOM (decode using utf-8-sig)"

/-- The most lists and objects that may stand inside one another. Five of them lie around the value of
a property in a graph file; what is inside the rest, if anything, is one level too deep to be written.
-/
def greatestDepth : Nat := 988

/-- What goes beyond a limit: the digits of an integer, or a list or an object that lies too deep. -/
inductive Excess where
  | digits (n : Nat)
  | list
  | object
  deriving DecidableEq, Repr

def Excess.message : Excess → String
  | .digits n =>
    "Exceeds the limit (" ++ toString mostDigits ++
      " digits) for integer string conversion: value has " ++ toString n ++
      " digits; use sys.set_int_max_str_digits() to increase the limit"
  | .list =>
    "maximum recursion depth exceeded while decoding a JSON array from a unicode string"
  | .object =>
    "maximum recursion depth exceeded while decoding a JSON object from a unicode string"

inductive Error where
  | malformed (fault : Fault) (position : Nat)
  | beyond (excess : Excess)
  deriving DecidableEq, Repr

/-- Lines and columns are counted from one, positions from zero. -/
def Fault.messageAt (f : Fault) (position : Nat) (text : List Char) : String :=
  let before := text.take position
  let line := before.count '\n' + 1
  let column := (before.reverse.takeWhile (· ≠ '\n')).length + 1
  f.message ++ ": line " ++ toString line ++ " column " ++ toString column ++
    " (char " ++ toString position ++ ")"

/-- What is left of a text, and the position where it starts. -/
structure Cursor where
  position : Nat
  rest : List Char
  deriving DecidableEq, Repr

namespace Cursor

def advance (c : Cursor) (n : Nat) : Cursor := ⟨c.position + n, c.rest.drop n⟩

def fail {α : Type} (c : Cursor) (fault : Fault) : Except Error α := .error (.malformed fault c.position)

def isSpace (c : Char) : Bool := c = ' ' || c = '\t' || c = '\n' || c = '\r'

def skipSpace (c : Cursor) : Cursor := c.advance (c.rest.takeWhile isSpace).length

end Cursor

def hexValue (c : Char) : Option Nat :=
  if '0' ≤ c ∧ c ≤ '9' then some (c.toNat - 48)
  else if 'a' ≤ c ∧ c ≤ 'f' then some (c.toNat - 87)
  else if 'A' ≤ c ∧ c ≤ 'F' then some (c.toNat - 55)
  else none

/-- Four hexadecimal digits; at least one character has to follow them. -/
def readCode : List Char → Option Nat
  | a :: b :: c :: d :: _ :: _ => do
    let a ← hexValue a
    let b ← hexValue b
    let c ← hexValue c
    let d ← hexValue d
    return ((a * 16 + b) * 16 + c) * 16 + d
  | _ => none

def escaped : Char → Option Char
  | '"' => some '"'
  | '\\' => some '\\'
  | '/' => some '/'
  | 'b' => some '\x08'
  | 'f' => some '\x0c'
  | 'n' => some '\n'
  | 'r' => some '\r'
  | 't' => some '\t'
  | _ => none

def isHigh (n : Nat) : Bool := 0xd800 ≤ n && n < 0xdc00
def isLow (n : Nat) : Bool := 0xdc00 ≤ n && n < 0xe000

/-- The character after `\u`, and the number of characters its digits take. The second half of a
pair, where one follows, is read with the first; a half on its own stays one. -/
def readEscapedCode (c : Cursor) : Except Error (Char × Nat) :=
  match readCode c.rest with
  | none => .error (.malformed .badCodeEscape (c.position - 1))
  | some n =>
    match c.rest.drop 4 with
    | '\\' :: 'u' :: more =>
      if isHigh n && !(more.drop 4).isEmpty then
        match readCode more with
        | none => .error (.malformed .badCodeEscape (c.position + 5))
        | some m =>
          if isLow m then .ok (Text.charOf (0x10000 + (n - 0xd800) * 1024 + (m - 0xdc00)), 10)
          else .ok (Text.charOf n, 4)
      else .ok (Text.charOf n, 4)
    | _ => .ok (Text.charOf n, 4)

/-- The characters up to the closing quote of a string that opened at `start`. -/
def readString (start position : Nat) : List Char → Except Error (List Char × Cursor)
  | [] => .error (.malformed .openString start)
  | '"' :: cs => .ok ([], ⟨position + 1, cs⟩)
  | '\\' :: [] => .error (.malformed .openString start)
  | '\\' :: 'u' :: cs =>
    match readEscapedCode ⟨position + 2, cs⟩ with
    | .error e => .error e
    | .ok (c, n) =>
      (readString start (position + 2 + n) (cs.drop n)).map fun r => (c :: r.1, r.2)
  | '\\' :: e :: cs =>
    match escaped e with
    | none => .error (.malformed .badEscape position)
    | some c => (readString start (position + 2) cs).map fun r => (c :: r.1, r.2)
  | c :: cs =>
    if c.toNat < 0x20 then .error (.malformed .controlCharacter position)
    else (readString start (position + 1) cs).map fun r => (c :: r.1, r.2)
  termination_by cs => cs.length
  decreasing_by all_goals simp; try omega

def constants : List (String × Value) :=
  [("null", .null), ("true", .bool true), ("false", .bool false), ("NaN", .float .nan),
    ("Infinity", .float (.infinite false)), ("-Infinity", .float (.infinite true))]

def readConstant (c : Cursor) : Option (Value × Cursor) :=
  (constants.find? fun k => k.1.toList.isPrefixOf c.rest).map fun k =>
    (k.2, c.advance k.1.length)

/-- The digits of a whole part: a lone zero, or digits that do not start with one. -/
def wholeDigits : List Char → List Char
  | [] => []
  | c :: cs => if c = '0' then ['0'] else (c :: cs).takeWhile Numeral.isDigit

/-- The digits after a point. A point with none is no part of the number. -/
def fractionDigits : List Char → List Char
  | '.' :: cs => cs.takeWhile Numeral.isDigit
  | _ => []

/-- The length and value of a power of ten; a mark with no digits is no part of the number. -/
def powerPart : List Char → Option (Nat × Int)
  | c :: cs =>
    if c = 'e' || c = 'E' then
      let (negative, more) := Numeral.readSign cs
      let digits := more.takeWhile Numeral.isDigit
      if digits.isEmpty then none
      else
        let n : Int := Numeral.digitsValue digits
        some (1 + (cs.length - more.length) + digits.length, if negative then -n else n)
    else none
  | [] => none

/-- An integer has neither a fraction nor a power of ten; any other number is floating. -/
def readNumber (c : Cursor) : Except Error (Value × Cursor) :=
  let negative := c.rest.head? == some '-'
  let start := if negative then 1 else 0
  let whole := wholeDigits (c.rest.drop start)
  if whole.isEmpty then c.fail .value
  else
    let n := start + whole.length
    let fraction := fractionDigits (c.rest.drop n)
    let n := if fraction.isEmpty then n else n + 1 + fraction.length
    match powerPart (c.rest.drop n) with
    | some (m, power) =>
      .ok (.float (Numeral.ofParts negative whole fraction power), c.advance (n + m))
    | none =>
      if !fraction.isEmpty then
        .ok (.float (Numeral.ofParts negative whole fraction 0), c.advance n)
      else if mostDigits < whole.length then .error (.beyond (.digits whole.length))
      else
        let i : Int := Numeral.digitsValue whole
        .ok (.int (if negative then -i else i), c.advance n)

mutual

/-- Reads a value. `levels` is how many lists and objects may still open inside one another. `steps`
bounds the calls inside one another: a value takes a character at least, and so does each step to an
item, so twice the length of the text and one are enough. -/
def readValue (steps levels : Nat) (c : Cursor) : Except Error (Value × Cursor) :=
  match steps with
  | 0 => c.fail .value
  | steps + 1 =>
    match c.rest with
    | '"' :: cs =>
      (readString c.position (c.position + 1) cs).map fun r => (.text (String.ofList r.1), r.2)
    | '{' :: _ =>
      match levels with
      | 0 => .error (.beyond .object)
      | levels + 1 =>
        let c := (c.advance 1).skipSpace
        match c.rest with
        | '}' :: _ => .ok (.object [], c.advance 1)
        | _ => (readMembers steps levels [] c).map fun r => (.object r.1, r.2)
    | '[' :: _ =>
      match levels with
      | 0 => .error (.beyond .list)
      | levels + 1 =>
        let c := (c.advance 1).skipSpace
        match c.rest with
        | ']' :: _ => .ok (.list [], c.advance 1)
        | _ => (readItems steps levels c).map fun r => (.list r.1, r.2)
    | _ =>
      match readConstant c with
      | some r => .ok r
      | none => readNumber c

def readItems (steps levels : Nat) (c : Cursor) : Except Error (List Value × Cursor) :=
  match steps with
  | 0 => c.fail .value
  | steps + 1 =>
    match readValue steps levels c with
    | .error e => .error e
    | .ok (v, c) =>
      let c := c.skipSpace
      match c.rest with
      | ']' :: _ => .ok ([v], c.advance 1)
      | ',' :: _ =>
        (readItems steps levels (c.advance 1).skipSpace).map fun r => (v :: r.1, r.2)
      | _ => c.fail .comma

def readMembers (steps levels : Nat) (fields : List (String × Value)) (c : Cursor) :
    Except Error (List (String × Value) × Cursor) :=
  match steps with
  | 0 => c.fail .name
  | steps + 1 =>
    match c.rest with
    | '"' :: cs =>
      match readString c.position (c.position + 1) cs with
      | .error e => .error e
      | .ok (key, c) =>
        let c := c.skipSpace
        match c.rest with
        | ':' :: _ =>
          match readValue steps levels (c.advance 1).skipSpace with
          | .error e => .error e
          | .ok (v, c) =>
            let fields := Value.put (String.ofList key) v fields
            let c := c.skipSpace
            match c.rest with
            | '}' :: _ => .ok (fields, c.advance 1)
            | ',' :: _ => readMembers steps levels fields (c.advance 1).skipSpace
            | _ => c.fail .comma
        | _ => c.fail .colon
    | _ => c.fail .name

end

/-- Reads a text that holds one value and nothing else but space around it. -/
def read (text : List Char) : Except Error Value :=
  if text.head? = some '\ufeff' then .error (.malformed .byteOrderMark 0)
  else
    match readValue (2 * text.length + 1) greatestDepth (Cursor.mk 0 text).skipSpace with
    | .error e => .error e
    | .ok (v, c) =>
      let c := c.skipSpace
      if c.rest.isEmpty then .ok v else c.fail .extraData

end GraphSchema.Json
