import GraphSchema.Data.Checked
import GraphSchema.Graph.Basic
import GraphSchema.Number.Numeral
import GraphSchema.Text.Identifier

/-! The rules by which values become properties, nodes and edges. -/
namespace GraphSchema

namespace Check

def text : Value → Checked String
  | .text s => .ok s
  | _ => Checked.fault .notText

/-- Numbers stand for their text, if that can be written. -/
def textOrNumber : Value → Checked String
  | .text s => .ok s
  | .int n => if Value.isLong n then Checked.fault .overlong else .ok (Value.int n).toText
  | .float x => .ok (Value.float x).toText
  | _ => Checked.fault .notText

def trueWords : List String := ["1", "on", "t", "true", "y", "yes"]
def falseWords : List String := ["0", "off", "f", "false", "n", "no"]

/-- Half the number of words of 64 bits. -/
def wordLimit : Int := 9223372036854775808

/-- The integers that fit in 64 bits. -/
def isWord (n : Int) : Bool := -wordLimit ≤ n && n < wordLimit

/-- The whole numbers that a floating point number may stand for; the least word is left out. -/
def isFloatWord (n : Int) : Bool := -wordLimit < n && n < wordLimit

def booleanOfInt (n : Int) : Checked Bool :=
  if n = 0 then .ok false else if n = 1 then .ok true else Checked.fault .unclearBoolean

/-- Zero and one, and the usual words in any case, stand for booleans. -/
def boolean : Value → Checked Bool
  | .bool b => .ok b
  | .int n => if isWord n then booleanOfInt n else Checked.fault .notBoolean
  | .float x =>
    match x.toInt? with
    | some n => if isFloatWord n then booleanOfInt n else Checked.fault .notBoolean
    | none => Checked.fault .notBoolean
  | .text s =>
    let word := String.ofList (s.toList.map Text.lowerAscii)
    if trueWords.contains word then .ok true
    else if falseWords.contains word then .ok false
    else Checked.fault .unclearBoolean
  | _ => Checked.fault .notBoolean

/-- An attribute that is no field. One that is private may be set to anything and shows nowhere. -/
def otherAttribute {α : Type} (a : α) (name : String) : Checked α :=
  if name.toList.head? = some '_' then .ok a else Checked.fault (.noAttribute name)

def bothFaults (integer number : Cause) : Checked Value :=
  .error [⟨[.field "int"], integer⟩, ⟨[.field "float"], number⟩]

/-- A text that is no integer may still be a floating point number. -/
def number (integer : Cause) (s : String) : Checked Value :=
  match Numeral.readFloat s.toList with
  | some x => .ok (.float x)
  | none => bothFaults integer .unclearNumber

/-- A limit is absent or a number; an empty text means that it is absent. -/
def limit : Value → Checked Value
  | .null => .ok .null
  | .int n => .ok (.int n)
  | .float x => .ok (.float x)
  | .bool b => .ok (.int (if b then 1 else 0))
  | .text s =>
    if s = "" then .ok .null
    else
      match Numeral.readInteger s.toList with
      | .integer n => .ok (.int n)
      | .tooLong => number .longInteger s
      | .unclear => number .unclearInteger s
  | _ => bothFaults .notInteger .notNumber

def key (v : Value) : Checked String :=
  match text v with
  | .error fs => .error fs
  | .ok s =>
    let k := String.ofList (Text.trim Text.isBlank s.toList)
    if Text.passesAsIdentifier k.toList then .ok k else Checked.fault (.fieldName k)

def description : Value → Checked Value
  | .null => .ok (.text "")
  | v => (text v).map .text

def scalarName (v : Value) : Checked Value :=
  match Scalar.ofValue? v with
  | some s => .ok (.text s.name)
  | none => Checked.fault .notScalar

/-- A label loses the blanks around it and must not be blank. -/
def label (model : Model) (v : Value) : Checked String :=
  match textOrNumber v with
  | .error fs => .error fs
  | .ok s =>
    match Text.trim Text.isBlank s.toList with
    | [] => Checked.fault (.blankLabel model)
    | cs => .ok (String.ofList cs)

end Check

namespace Property

def keyField : FieldName := ⟨"key", none⟩
def typeField : FieldName := ⟨"type", none⟩
def descriptionField : FieldName := ⟨"description", none⟩
def isRequiredField : FieldName := ⟨"is_required", some "isRequired"⟩
def isAutoGeneratedField : FieldName := ⟨"is_auto_generated", some "isAutoGenerated"⟩
def defaultValueField : FieldName := ⟨"default_value", some "defaultValue"⟩
def limitMinField : FieldName := ⟨"limit_min", some "limitMin"⟩
def limitMaxField : FieldName := ⟨"limit_max", some "limitMax"⟩

def flag (v : Value) : Checked Value := (Check.boolean v).map .bool

def check : Value → Checked Property
  | .object fields =>
    (Checked.andAlso (.ok Property.mk) (keyField.required Check.key fields))
      |>.andAlso (typeField.optional (.text "String") Check.scalarName fields)
      |>.andAlso (descriptionField.optional (.text "") Check.description fields)
      |>.andAlso (isRequiredField.optional (.bool false) flag fields)
      |>.andAlso (isAutoGeneratedField.optional (.bool false) flag fields)
      |>.andAlso (defaultValueField.optional .null .ok fields)
      |>.andAlso (limitMinField.optional .null Check.limit fields)
      |>.andAlso (limitMaxField.optional .null Check.limit fields)
  | _ => Checked.fault (.notObject .property)

/-- Takes the fields as they are given. -/
def unchecked (fields : List (String × Value)) : Property :=
  let get (f : FieldName) (default : Value) : Value :=
    ((f.find? fields).map (·.2)).getD default
  { key := (get keyField .null).toText
    type := get typeField (.text "String")
    description := get descriptionField (.text "")
    isRequired := get isRequiredField (.bool false)
    isAutoGenerated := get isAutoGeneratedField (.bool false)
    defaultValue := get defaultValueField .null
    limitMin := get limitMinField .null
    limitMax := get limitMaxField .null }

/-- Sets one field to a checked value. -/
def assign (p : Property) (field : String) (v : Value) : Checked Property :=
  Checked.within (.field field) <|
    match field with
    | "key" => (Check.key v).map fun k => { p with key := k }
    | "type" => (Check.scalarName v).map fun t => { p with type := t }
    | "description" => (Check.description v).map fun d => { p with description := d }
    | "is_required" => (flag v).map fun b => { p with isRequired := b }
    | "is_auto_generated" => (flag v).map fun b => { p with isAutoGenerated := b }
    | "default_value" => .ok { p with defaultValue := v }
    | "limit_min" => (Check.limit v).map fun n => { p with limitMin := n }
    | "limit_max" => (Check.limit v).map fun n => { p with limitMax := n }
    | _ => Check.otherAttribute p field

end Property

/-- A property for a list of properties: one that exists, or a value still to be checked. -/
inductive Draft where
  | property (p : Property)
  | value (v : Value)
  deriving Repr, Inhabited

def Draft.check : Draft → Checked Property
  | .property p => .ok p
  | .value v => Property.check v

/-- What is given where a list of properties is wanted. Of the sequences that would pass for a list
only lists are modelled; tuples, sets and generators are left out. -/
inductive Drafts where
  | drafts (ds : List Draft)
  | value (v : Value)
  deriving Repr, Inhabited

def Drafts.check : Drafts → Checked (List Property)
  | .drafts ds => Checked.each Draft.check 0 ds
  | .value (.list vs) => Checked.each Property.check 0 vs
  | .value _ => Checked.fault .notList

def idField : FieldName := ⟨"id", none⟩
def labelField : FieldName := ⟨"label", none⟩
def propertiesField : FieldName := ⟨"properties", none⟩

def checkProperties (v : Value) : Checked (List Property) := Drafts.check (.value v)

/-- The ids given to nodes and edges that come without one, numbered from one. -/
def freshId (used : Nat) : String := "auto-" ++ toString (used + 1)

/-- The number of fresh ids used once a value has been checked: an object with no id takes one. -/
def idsAfter (used : Nat) : Value → Nat
  | .object fields => if (idField.find? fields).isNone then used + 1 else used
  | _ => used

namespace Node

def check (used : Nat) : Value → Checked Node
  | .object fields =>
    (Checked.andAlso (.ok Node.mk) (idField.optional (freshId used) Check.textOrNumber fields))
      |>.andAlso (labelField.required (Check.label .node) fields)
      |>.andAlso (propertiesField.optional [] checkProperties fields)
  | _ => Checked.fault (.notObject .node)

def assign (n : Node) (field : String) (v : Value) : Checked Node :=
  Checked.within (.field field) <|
    match field with
    | "id" => (Check.textOrNumber v).map fun i => { n with id := i }
    | "label" => (Check.label .node v).map fun l => { n with label := l }
    | "properties" => (checkProperties v).map fun ps => { n with properties := ps }
    | _ => Check.otherAttribute n field

end Node

namespace Edge

def startIdField : FieldName := ⟨"start_node_id", some "startNodeID"⟩
def endIdField : FieldName := ⟨"end_node_id", some "endNodeID"⟩

def check (used : Nat) : Value → Checked Edge
  | .object fields =>
    (Checked.andAlso (.ok Edge.mk) (idField.optional (freshId used) Check.textOrNumber fields))
      |>.andAlso (labelField.required (Check.label .edge) fields)
      |>.andAlso (startIdField.required Check.textOrNumber fields)
      |>.andAlso (endIdField.required Check.textOrNumber fields)
      |>.andAlso (propertiesField.optional [] checkProperties fields)
  | _ => Checked.fault (.notObject .edge)

def assign (e : Edge) (field : String) (v : Value) : Checked Edge :=
  Checked.within (.field field) <|
    match field with
    | "id" => (Check.textOrNumber v).map fun i => { e with id := i }
    | "label" => (Check.label .edge v).map fun l => { e with label := l }
    | "start_node_id" => (Check.textOrNumber v).map fun i => { e with startId := i }
    | "end_node_id" => (Check.textOrNumber v).map fun i => { e with endId := i }
    | "properties" => (checkProperties v).map fun ps => { e with properties := ps }
    | _ => Check.otherAttribute e field

end Edge

def Cause.code : Cause → String
  | .missing => "missing"
  | .notText => "string_type"
  | .notBoolean => "bool_type"
  | .unclearBoolean => "bool_parsing"
  | .notInteger => "int_type"
  | .unclearInteger => "int_parsing"
  | .longInteger => "int_parsing_size"
  | .notNumber => "float_type"
  | .unclearNumber => "float_parsing"
  | .notScalar => "enum"
  | .notList => "list_type"
  | .notObject _ => "model_type"
  | .fieldName _ | .blankLabel _ | .logLevel | .collisionPolicy => "value_error"
  | .noAttribute _ => "no_such_attribute"
  | .notPath => "path_type"
  | .overlong => "value_error"

/-- The names of the scalars as a choice: quoted, with "or" before the last. -/
def scalarChoice : String :=
  let quoted := Scalar.all.map fun s => "'" ++ s.name ++ "'"
  ", ".intercalate quoted.dropLast ++ " or " ++ quoted.getLastD ""

def Cause.message : Cause → String
  | .missing => "Field required"
  | .notText => "Input should be a valid string"
  | .notBoolean => "Input should be a valid boolean"
  | .unclearBoolean => "Input should be a valid boolean, unable to interpret input"
  | .notInteger => "Input should be a valid integer"
  | .unclearInteger =>
    "Input should be a valid integer, unable to parse string as an integer"
  | .longInteger => "Unable to parse input string as an integer, exceeded maximum size"
  | .notNumber => "Input should be a valid number"
  | .unclearNumber => "Input should be a valid number, unable to parse string as a number"
  | .notScalar => "Input should be " ++ scalarChoice
  | .notList => "Input should be a valid list"
  | .notObject m => "Input should be a valid dictionary or instance of " ++ m.name
  | .fieldName k => "Value error, '" ++ k ++ "' is not a valid field name"
  | .blankLabel .edge => "Value error, Edge label cannot be empty"
  | .blankLabel _ => "Value error, Node label cannot be empty"
  | .noAttribute name => "Object has no attribute '" ++ name ++ "'"
  | .logLevel => "Value error, Log level must be one of DEBUG, INFO, WARNING, ERROR, CRITICAL"
  | .collisionPolicy => "Value error, Collision policy must be one of warn, error, ignore"
  | .notPath => "Input is not a valid path for <class 'pathlib.Path'>"
  | .overlong => WritingLimit.digits.message

end GraphSchema
