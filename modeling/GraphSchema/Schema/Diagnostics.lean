import GraphSchema.Schema.Document
import GraphSchema.Text.Identifier

/-! What may be wrong with generated names: borne by more than one entity, or no identifiers. -/
namespace GraphSchema

def Node.owner (n : Node) : String := "node '" ++ n.label ++ "' (" ++ n.id ++ ")"

def Link.owner (l : Link) : String :=
  "edge '" ++ l.edge.label ++ "' (" ++ l.edge.id ++ ") from '" ++ l.start.label ++ "' to '" ++
    l.finish.label ++ "'"

/-- A name and the entity that bears it. -/
abbrev Bearing := String × String

/-- A name with its owners, as often as each of them bears it. -/
abbrev Owners := String × List String

/-- Adds an owner to the group of a name, or opens a group at the end. -/
def addBearing (groups : List Owners) (b : Bearing) : List Owners :=
  match groups with
  | [] => [(b.1, [b.2])]
  | g :: gs => if g.1 = b.1 then (g.1, g.2 ++ [b.2]) :: gs else g :: addBearing gs b

/-- The owners of each name, the names in the order in which they first occur. -/
def grouped (bs : List Bearing) : List Owners := bs.foldl addBearing []

def typeBearings (nodes : List Node) (links : List Link) : List Bearing :=
  nodes.flatMap (fun n => [(n.typeName, n.owner), (n.inputName, n.owner)]) ++
    links.flatMap fun l => [(l.edgeName, l.owner), (l.connectionName, l.owner)]

def queryBearings (nodes : List Node) : List Bearing := nodes.map fun n => (n.queryName, n.owner)

def fieldBearings (n : Node) (outgoing : List Link) : List Bearing :=
  n.properties.map (fun p => (p.key, "property '" ++ p.key ++ "'")) ++
    outgoing.map fun l => (l.edge.label, l.owner)

def listed (owners : List String) : String := " and ".intercalate owners

def typeCollision (g : Owners) : Option String :=
  if reservedNames.contains g.1 then
    some ("type '" ++ g.1 ++ "' from " ++ g.2.headD "" ++ " shadows a built-in type")
  else if 1 < g.2.length then
    some ("type '" ++ g.1 ++ "' is generated by " ++ listed g.2)
  else none

/-- Puts the query that is always there in front of the owners of its name. -/
def withBuiltIn : List Owners → List Owners
  | [] => [("nodes", ["the built-in 'nodes' query"])]
  | g :: gs =>
    if g.1 = "nodes" then (g.1, "the built-in 'nodes' query" :: g.2) :: gs
    else g :: withBuiltIn gs

def queryCollision (g : Owners) : Option String :=
  if 1 < g.2.length then some ("query field '" ++ g.1 ++ "' is generated by " ++ listed g.2)
  else none

def fieldCollision (n : Node) (g : Owners) : Option String :=
  if 1 < g.2.length then
    some ("field '" ++ g.1 ++ "' of type '" ++ n.typeName ++ "' is declared by " ++ listed g.2)
  else none

/-- One message for each name with more than one owner, and for each that shadows a fixed one. -/
def namingCollisions (nodes : List Node) (links : List Link) (outgoing : Outgoing) :
    List String :=
  (grouped (typeBearings nodes links)).filterMap typeCollision ++
    (withBuiltIn (grouped (queryBearings nodes))).filterMap queryCollision ++
    nodes.flatMap fun n =>
      (grouped (fieldBearings n (outgoing.of n))).filterMap (fieldCollision n)

/-- A generated name with its kind and its owner. -/
structure NameUse where
  kind : String
  name : String
  owner : String
  deriving DecidableEq, Repr

def nameUses (nodes : List Node) (links : List Link) : List NameUse :=
  nodes.flatMap (fun n => [⟨"type", n.typeName, n.owner⟩, ⟨"query field", n.queryName, n.owner⟩]) ++
    links.flatMap fun l =>
      [⟨"type", l.edgeName, l.owner⟩, ⟨"connection field", l.edge.label, l.owner⟩]

def NameUse.problem (u : NameUse) : Option String :=
  if Text.passesAsIdentifier u.name.toList then none
  else some (u.kind ++ " '" ++ u.name ++ "' from " ++ u.owner ++ " is not a valid identifier")

def invalidIdentifiers (nodes : List Node) (links : List Link) : List String :=
  (nameUses nodes links).filterMap NameUse.problem

end GraphSchema
