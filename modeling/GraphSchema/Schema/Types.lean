import GraphSchema.Schema.Field
import GraphSchema.Schema.Naming

/-! The declarations generated from nodes and edges, each as its lines. -/
namespace GraphSchema

def joined (lines : List String) : String := "\n".intercalate lines

namespace Link

def connectionField (l : Link) : String := indent ++ l.edge.label ++ ": " ++ l.connectionName

end Link

namespace Node

def typeHeader (n : Node) : String := "type " ++ n.typeName ++ " implements Node \x7b"

/-- The object type: the properties, then a connection for each outgoing link. -/
def typeLines (n : Node) (outgoing : List Link) : Except FieldError (List String) :=
  (propertyLines n.properties).map fun ls =>
    n.typeHeader :: ls ++ outgoing.map Link.connectionField ++ ["\x7d"]

/-- The properties that a user fills in. -/
def inputProperties (n : Node) : List Property :=
  n.properties.filter fun p => !p.isAutoGenerated.counts

def inputLines (n : Node) : Except FieldError (List String) :=
  (propertyLines n.inputProperties).map fun ls =>
    ["#input for " ++ n.typeName, "input " ++ n.inputName ++ " \x7b"] ++ ls ++ ["\x7d"]

/-- Both declarations of a node, a blank line between them. -/
def fragment (n : Node) (outgoing : List Link) : Except FieldError String :=
  match n.typeLines outgoing with
  | .error u => .error u
  | .ok object =>
    match n.inputLines with
    | .error u => .error u
    | .ok input => .ok (joined object ++ "\n\n" ++ joined input)

def queryField (n : Node) : String :=
  indent ++ n.queryName ++ "(id:[ID]): [" ++ n.typeName ++ "]"

end Node

namespace Link

/-- The edge type: the node at the end, then the properties of the edge. -/
def edgeLines (l : Link) : Except FieldError (List String) :=
  (propertyLines l.edge.properties).map fun ls =>
    ["type " ++ l.edgeName ++ " implements Edge \x7b", indent ++ "node: " ++ l.finish.typeName] ++
      ls ++ ["\x7d"]

def edgeFragment (l : Link) : Except FieldError String := l.edgeLines.map joined

def connectionLines (l : Link) : List String :=
  ["type " ++ l.connectionName ++ " implements Connection \x7b",
    indent ++ "nodes: [" ++ l.start.typeName ++ "]",
    indent ++ "edges: [" ++ l.edgeName ++ "]",
    indent ++ "pageInfo: PageInfo",
    indent ++ "totalCount: Int!",
    "\x7d"]

def connectionFragment (l : Link) : String := joined l.connectionLines

/-- What follows "add" and "remove" in the mutations of a link. -/
def signature (l : Link) : String :=
  l.baseName ++ "(" ++ l.start.typeName ++ "Id: ID!, " ++ l.finish.typeName ++ ": ID!): " ++
    l.connectionName

def mutations (l : Link) : List String := ["add" ++ l.signature, "remove" ++ l.signature]

end Link

namespace Node

/-- The mutations of a node, then those of its outgoing links. -/
def mutations (n : Node) (outgoing : List Link) : List String :=
  let t := n.typeName
  ["create" ++ t ++ "(" ++ t ++ ": " ++ n.inputName ++ "): " ++ t,
    "update" ++ t ++ "(" ++ t ++ ": " ++ n.inputName ++ ", id: ID!): " ++ t,
    "delete" ++ t ++ "(id: ID!): " ++ t] ++ outgoing.flatMap Link.mutations

def mutationLines (n : Node) (outgoing : List Link) : List String :=
  (n.mutations outgoing).map (indent ++ ·)

end Node

/-- The links that start at a node, under the id of the node. -/
abbrev Outgoing := List (String × List Link)

def Outgoing.of (o : Outgoing) (n : Node) : List Link := (o.lookup n.id).getD []

def queryType (nodes : List Node) : String :=
  joined (["# the schema allows the following query:", "type Query \x7b",
    indent ++ "nodes(id:[ID]): [Node]"] ++ nodes.map Node.queryField ++ ["\x7d"])

def mutationType (nodes : List Node) (outgoing : Outgoing) : String :=
  "type Mutation \x7b\n" ++
    "\n\n".intercalate (nodes.map fun n => joined (n.mutationLines (outgoing.of n))) ++ "\n\x7d"

end GraphSchema
