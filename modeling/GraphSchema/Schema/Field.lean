import GraphSchema.Graph.Basic

/-! Fields of generated types: a comment line with what is known of a property, then its
declaration. -/
namespace GraphSchema

/-- A property whose type is none of the scalars. -/
structure Unsupported where
  key : String
  type : Value
  deriving Repr, Inhabited

def Unsupported.message (u : Unsupported) : String :=
  "Property '" ++ u.key ++ "' has unsupported type '" ++ u.type.toText ++ "'"

/-- What keeps a property from being declared: its type, or a value of its own that cannot be
written as text. -/
inductive FieldError where
  | unsupported (u : Unsupported)
  | beyond (limit : WritingLimit)
  deriving Repr, Inhabited

def FieldError.message : FieldError → String
  | .unsupported u => u.message
  | .beyond limit => limit.message

namespace Value

/-- Booleans in small letters, whole numbers without a point, all else as it is; `Value.beyond?` says
for which values there is no such text. -/
def shown : Value → String
  | bool b => if b then "true" else "false"
  | float x =>
    match x.toInt? with
    | some n => toString n
    | none => (float x).toText
  | v => v.toText

def isSet : Value → Bool
  | null => false
  | text s => s ≠ ""
  | _ => true

end Value

namespace Property

/-- The report of a type that is no scalar has the type as text. -/
def scalar (p : Property) : Except FieldError Scalar :=
  match p.scalar? with
  | some s => .ok s
  | none =>
    match p.type.beyond? with
    | some limit => .error (.beyond limit)
    | none => .error (.unsupported ⟨p.key, p.type⟩)

/-- The limit that the values of a comment meet, in the order in which they are written. -/
def beyond? (p : Property) : Option WritingLimit :=
  [p.description, p.defaultValue, p.limitMin, p.limitMax].findSome? Value.beyond?

/-- The scalar of a property whose comment can be written. -/
def described (p : Property) : Except FieldError Scalar :=
  match p.scalar with
  | .error e => .error e
  | .ok s =>
    match p.beyond? with
    | some limit => .error (.beyond limit)
    | none => .ok s

/-- A remark on a value, if the value is set. -/
def remark (title : String) (v : Value) : String :=
  if v.isSet then "; " ++ title ++ ": " ++ v.shown else ""

def commentFor (p : Property) (s : Scalar) : String :=
  let unit := if s.isText then " length" else ""
  "#" ++ (if p.description.counts then p.description.toText else "") ++
    remark "default" p.defaultValue ++ remark ("min" ++ unit) p.limitMin ++
    remark ("max" ++ unit) p.limitMax

def declarationFor (p : Property) (s : Scalar) : String :=
  p.key ++ ": " ++ s.name ++ (if p.isRequired.counts then "!" else "")

def comment (p : Property) : Except FieldError String := p.described.map p.commentFor

def declaration (p : Property) : Except FieldError String := p.scalar.map p.declarationFor

/-- The comment and the declaration, each behind an indent. -/
def linesFor (indent : String) (p : Property) (s : Scalar) : List String :=
  [indent ++ p.commentFor s, indent ++ p.declarationFor s]

def lines (indent : String) (p : Property) : Except FieldError (List String) :=
  p.described.map (p.linesFor indent)

def render (indent : String) (p : Property) : Except FieldError String :=
  (p.lines indent).map ("\n".intercalate ·)

end Property

def indent : String := "  "

/-- The lines of properties, up to the first that cannot be declared. -/
def propertyLines : List Property → Except FieldError (List String)
  | [] => .ok []
  | p :: ps =>
    match p.lines indent with
    | .error u => .error u
    | .ok ls =>
      match propertyLines ps with
      | .error u => .error u
      | .ok more => .ok (ls ++ more)

end GraphSchema
