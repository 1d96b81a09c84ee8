import GraphSchema.Number.Shortest
import GraphSchema.Text.Quoted

/-! Free values: what a graph document may hold, and how such a value is written as text. -/
namespace GraphSchema

/-- The fields of an object keep their order. -/
inductive Value where
  | null
  | bool (b : Bool)
  | int (n : Int)
  | float (x : Binary64)
  | text (s : String)
  | list (items : List Value)
  | object (fields : List (String × Value))
  deriving Repr, Inhabited

/-- The most digits of an integer that is read from a text or written as one. -/
def mostDigits : Nat := 4300

/-- The most values that may stand inside one another where one is written as text. The call stack
sets the bound, so that it depends on the calls that are open; this is what they leave where a
document is generated by a command. -/
def mostLevels : Nat := 983

/-- The limits on writing a value as text. -/
inductive WritingLimit where
  | digits | depth
  deriving DecidableEq, Repr

def WritingLimit.message : WritingLimit → String
  | .digits =>
    "Exceeds the limit (" ++ toString mostDigits ++
      " digits) for integer string conversion; use sys.set_int_max_str_digits() to increase the limit"
  | .depth => "maximum recursion depth exceeded while getting the repr of an object"

namespace Value

mutual

/-- A value inside another one: text is quoted there. -/
def literal : Value → List Char
  | null => "None".toList
  | bool b => if b then "True".toList else "False".toList
  | int n => (toString n).toList
  | float x => x.text
  | text s => Text.quote s.toList
  | list items => '[' :: literals items ++ [']']
  | object fields => '\x7b' :: fieldLiterals fields ++ ['\x7d']

def literals : List Value → List Char
  | [] => []
  | [v] => literal v
  | v :: w :: vs => literal v ++ ", ".toList ++ literals (w :: vs)

def fieldLiterals : List (String × Value) → List Char
  | [] => []
  | [(k, v)] => Text.quote k.toList ++ ": ".toList ++ literal v
  | (k, v) :: f :: fs =>
    Text.quote k.toList ++ ": ".toList ++ literal v ++ ", ".toList ++ fieldLiterals (f :: fs)

end

/-- A value on its own: text stands for itself. -/
def toText : Value → String
  | text s => s
  | v => String.ofList v.literal

/-- An integer with too many digits to be written. -/
def isLong (n : Int) : Bool := mostDigits < Binary64.digitCount n.natAbs

mutual

/-- The first limit that is met where a value is written inside others, when no more than `levels`
values may stand inside one another from there on. -/
def beyondIn : Value → (levels : Nat) → Option WritingLimit
  | _, 0 => some .depth
  | int n, _ + 1 => if isLong n then some .digits else none
  | list items, levels + 1 => beyondItems items levels
  | object fields, levels + 1 => beyondFields fields levels
  | _, _ + 1 => none

def beyondItems : List Value → (levels : Nat) → Option WritingLimit
  | [], _ => none
  | v :: vs, levels => (beyondIn v levels).or (beyondItems vs levels)

def beyondFields : List (String × Value) → (levels : Nat) → Option WritingLimit
  | [], _ => none
  | (_, v) :: fs, levels => (beyondIn v levels).or (beyondFields fs levels)

end

/-- The limit that a value meets where it is written on its own. -/
def beyond? : Value → Option WritingLimit
  | text _ => none
  | v => v.beyondIn mostLevels

mutual

/-- Equality as it is computed. -/
def same : Value → Value → Bool
  | null, null => true
  | bool a, bool b => a == b
  | int m, int n => m == n
  | float x, float y => x = y
  | text s, text t => s == t
  | list vs, list ws => sameItems vs ws
  | object fs, object gs => sameFields fs gs
  | _, _ => false

def sameItems : List Value → List Value → Bool
  | [], [] => true
  | v :: vs, w :: ws => same v w && sameItems vs ws
  | _, _ => false

def sameFields : List (String × Value) → List (String × Value) → Bool
  | [], [] => true
  | (k, v) :: fs, (l, w) :: gs => k == l && same v w && sameFields fs gs
  | _, _ => false

end

mutual

theorem same_iff : ∀ {v w : Value}, same v w = true ↔ v = w
  | null, w | bool _, w | int _, w | float _, w | text _, w => by cases w <;> simp [same]
  | list vs, w => by cases w <;> simp [same, sameItems_iff]
  | object fs, w => by cases w <;> simp [same, sameFields_iff]

theorem sameItems_iff : ∀ {vs ws : List Value}, sameItems vs ws = true ↔ vs = ws
  | [], ws => by cases ws <;> simp [sameItems]
  | v :: vs, ws => by cases ws <;> simp [sameItems, same_iff, sameItems_iff]

theorem sameFields_iff : ∀ {fs gs : List (String × Value)}, sameFields fs gs = true ↔ fs = gs
  | [], gs => by cases gs <;> simp [sameFields]
  | (k, v) :: fs, gs => by
    cases gs <;> simp [sameFields, same_iff, sameFields_iff, Prod.ext_iff, and_assoc]

end

instance : DecidableEq Value := fun _ _ => decidable_of_iff _ same_iff

/-- Absent, false, zero and empty values do not count; every other value does. -/
def counts : Value → Bool
  | null => false
  | bool b => b
  | int n => n ≠ 0
  | float x => !x.isZero
  | text s => s ≠ ""
  | list items => !items.isEmpty
  | object fields => !fields.isEmpty

def get? (fields : List (String × Value)) (key : String) : Option Value := fields.lookup key

/-- Sets a field: the last value wins, the first place stays. -/
def put (key : String) (v : Value) : List (String × Value) → List (String × Value)
  | [] => [(key, v)]
  | (k, w) :: fs => if k = key then (k, v) :: fs else (k, w) :: put key v fs

end Value
end GraphSchema
