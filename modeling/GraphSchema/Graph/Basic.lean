import GraphSchema.Data.Value

/-! Graphs as a user draws them: nodes and directed edges with labels and ordered, typed
properties. -/
namespace GraphSchema

inductive Scalar where
  | string | url | email | password | int | float | boolean | datetime | geoPoint | id
  deriving DecidableEq, Repr

namespace Scalar

def all : List Scalar :=
  [string, url, email, password, int, float, boolean, datetime, geoPoint, id]

def name : Scalar → String
  | string => "String"
  | url => "Url"
  | email => "Email"
  | password => "Password"
  | int => "Int"
  | float => "Float"
  | boolean => "Boolean"
  | datetime => "Datetime"
  | geoPoint => "GeoPoint"
  | id => "ID"

def ofName? (s : String) : Option Scalar := all.find? (·.name = s)

def ofValue? : Value → Option Scalar
  | .text s => ofName? s
  | _ => none

/-- Limits on these kinds count characters. -/
def isText : Scalar → Bool
  | string | url | email | password => true
  | _ => false

theorem ofName?_name (s : Scalar) : ofName? s.name = some s := by cases s <;> decide

theorem ofName?_eq_some {t : String} {s : Scalar} : ofName? t = some s ↔ t = s.name := by
  constructor
  · intro h
    have := List.find?_some h
    simpa [eq_comm] using this
  · rintro rfl
    exact ofName?_name s

end Scalar

/-- A property of a node or an edge. Graphs may be built without checks, so all but the key are
free values; a checked property holds a scalar's name, a text, two booleans and two numbers. -/
structure Property where
  key : String
  type : Value := .text "String"
  description : Value := .text ""
  isRequired : Value := .bool false
  isAutoGenerated : Value := .bool false
  defaultValue : Value := .null
  limitMin : Value := .null
  limitMax : Value := .null
  deriving Repr, Inhabited

def Property.scalar? (p : Property) : Option Scalar := Scalar.ofValue? p.type

structure Node where
  id : String
  label : String
  properties : List Property := []
  deriving Repr, Inhabited

/-- An edge names its two nodes by their ids. -/
structure Edge where
  id : String
  label : String
  startId : String
  endId : String
  properties : List Property := []
  deriving Repr, Inhabited

def findProperty (key : String) (ps : List Property) : Option Property := ps.find? (·.key = key)

end GraphSchema
