import GraphSchema.Schema.Generation

/-! The document as data: its declarations, the fields of each, and the types that these refer to.
Each part of an outline says how it is written, line by line. -/
namespace GraphSchema

/-- A type as a field or an argument refers to it. -/
inductive TypeRef where
  | named (name : String)
  | list (item : TypeRef)
  | required (type : TypeRef)
  deriving DecidableEq, Repr

namespace TypeRef

def text : TypeRef → String
  | named name => name
  | list item => "[" ++ item.text ++ "]"
  | required type => type.text ++ "!"

/-- The name of the type that is referred to. -/
def name : TypeRef → String
  | named name => name
  | list item => item.name
  | required type => type.name

end TypeRef

structure Argument where
  name : String
  gap : String := " "
  type : TypeRef
  deriving DecidableEq, Repr

def Argument.text (a : Argument) : String := a.name ++ ":" ++ a.gap ++ a.type.text

/-- A field, with the remark on the line above it. -/
structure FieldDecl where
  remark : Option String := none
  name : String
  arguments : List Argument := []
  type : TypeRef
  deriving DecidableEq, Repr

namespace FieldDecl

def signature (f : FieldDecl) : String :=
  if f.arguments.isEmpty then "" else "(" ++ ", ".intercalate (f.arguments.map Argument.text) ++ ")"

def text (f : FieldDecl) : String := f.name ++ f.signature ++ ": " ++ f.type.text

def lines (f : FieldDecl) : List String := (f.remark.toList ++ [f.text]).map (indent ++ ·)

def references (f : FieldDecl) : List String := f.arguments.map (·.type.name) ++ [f.type.name]

end FieldDecl

/-- The line that opens a declaration. -/
inductive Heading where
  | type (name : String) (base : Option String := none)
  | input (name : String)
  | interface (name : String)
  | schema
  deriving DecidableEq, Repr

namespace Heading

def text : Heading → String
  | type name none => "type " ++ name ++ " \x7b"
  | type name (some base) => "type " ++ name ++ " implements " ++ base ++ " \x7b"
  | input name => "input " ++ name ++ " \x7b"
  | interface name => "interface " ++ name ++ " \x7b"
  | schema => "schema \x7b"

/-- The name that is declared. -/
def name? : Heading → Option String
  | type name _ => some name
  | input name => some name
  | interface name => some name
  | schema => none

/-- The interface that is implemented. -/
def base? : Heading → Option String
  | type _ base => base
  | _ => none

end Heading

/-- Groups of lines with an empty line between two of them, or in place of them if there are none.
-/
def spaced : List (List String) → List String
  | [] => [""]
  | [g] => g
  | g :: h :: gs => g ++ "" :: spaced (h :: gs)

/-- A declaration: remarks in front of it, its heading and its groups of fields. -/
structure Declaration where
  remarks : List String := []
  heading : Heading
  groups : List (List FieldDecl)
  deriving DecidableEq, Repr

namespace Declaration

def fields (d : Declaration) : List FieldDecl := d.groups.flatten

def fieldNames (d : Declaration) : List String := d.fields.map FieldDecl.name

def body (d : Declaration) : List String := spaced (d.groups.map (·.flatMap FieldDecl.lines))

def lines (d : Declaration) : List String :=
  d.remarks ++ d.heading.text :: d.body ++ ["\x7d"]

def text (d : Declaration) : String := joined d.lines

/-- The names of the types that a declaration mentions. -/
def references (d : Declaration) : List String :=
  d.heading.base?.toList ++ d.fields.flatMap FieldDecl.references

end Declaration

/-- A field whose line is the remark on a property and its declaration. A type that is no scalar
stops generation, so that nothing hangs on what stands for it here. -/
def Property.field (p : Property) : FieldDecl where
  remark := some (p.commentFor (p.scalar?.getD .string))
  name := p.key
  type :=
    let type := .named (p.scalar?.getD .string).name
    if p.isRequired.counts then .required type else type

namespace Link

def field (l : Link) : FieldDecl := { name := l.edge.label, type := .named l.connectionName }

def edgeDeclaration (l : Link) : Declaration where
  heading := .type l.edgeName (some "Edge")
  groups := [{ name := "node", type := .named l.finish.typeName } ::
    l.edge.properties.map Property.field]

def connectionDeclaration (l : Link) : Declaration where
  heading := .type l.connectionName (some "Connection")
  groups := [[
    { name := "nodes", type := .list (.named l.start.typeName) },
    { name := "edges", type := .list (.named l.edgeName) },
    { name := "pageInfo", type := .named "PageInfo" },
    { name := "totalCount", type := .required (.named "Int") }]]

/-- Adding and removing a link take the ids of its two nodes. -/
def mutationFields (l : Link) : List FieldDecl :=
  ["add", "remove"].map fun verb =>
    { name := verb ++ l.baseName
      arguments := [⟨l.start.typeName ++ "Id", " ", .required (.named "ID")⟩,
        ⟨l.finish.typeName, " ", .required (.named "ID")⟩]
      type := .named l.connectionName }

end Link

namespace Node

def objectDeclaration (n : Node) (outgoing : List Link) : Declaration where
  heading := .type n.typeName (some "Node")
  groups := [n.properties.map Property.field ++ outgoing.map Link.field]

def inputDeclaration (n : Node) : Declaration where
  remarks := ["#input for " ++ n.typeName]
  heading := .input n.inputName
  groups := [n.inputProperties.map Property.field]

def queryDecl (n : Node) : FieldDecl where
  name := n.queryName
  arguments := [⟨"id", "", .list (.named "ID")⟩]
  type := .list (.named n.typeName)

def mutationFields (n : Node) (outgoing : List Link) : List FieldDecl :=
  let self : Argument := ⟨n.typeName, " ", .named n.inputName⟩
  let id : Argument := ⟨"id", " ", .required (.named "ID")⟩
  [{ name := "create" ++ n.typeName, arguments := [self], type := .named n.typeName },
    { name := "update" ++ n.typeName, arguments := [self, id], type := .named n.typeName },
    { name := "delete" ++ n.typeName, arguments := [id], type := .named n.typeName }] ++
    outgoing.flatMap Link.mutationFields

end Node

/-- The query that is always there. -/
def nodesQuery : FieldDecl where
  name := "nodes"
  arguments := [⟨"id", "", .list (.named "ID")⟩]
  type := .list (.named "Node")

def queryDeclaration (nodes : List Node) : Declaration where
  remarks := ["# the schema allows the following query:"]
  heading := .type "Query"
  groups := [nodesQuery :: nodes.map Node.queryDecl]

def mutationDeclaration (nodes : List Node) (outgoing : Node → List Link) : Declaration where
  heading := .type "Mutation"
  groups := nodes.map fun n => n.mutationFields (outgoing n)

/-- A mutation is one of a node itself or one of a link that starts there. -/
theorem mem_fields_mutationDeclaration {nodes : List Node} {outgoing : Node → List Link}
    {f : FieldDecl} : f ∈ (mutationDeclaration nodes outgoing).fields ↔
      ∃ n ∈ nodes, f ∈ n.mutationFields [] ∨ ∃ l ∈ outgoing n, f ∈ l.mutationFields := by
  simp only [mutationDeclaration, Declaration.fields, ← List.flatMap_def, List.mem_flatMap,
    Node.mutationFields, List.flatMap_nil, List.append_nil, List.mem_append]

/-- The scalars that every document declares. -/
def declaredScalars : List String := ["Datetime", "Email", "Url", "Password"]

/-- The scalars of the grammar itself. -/
def builtInScalars : List String := ["String", "Int", "Float", "Boolean", "ID"]

def scalarLines : List String := declaredScalars.map ("scalar " ++ ·)

def geoPointFields : List FieldDecl := [
  { name := "lat", type := .required (.named "Float") },
  { name := "lng", type := .required (.named "Float") }]

/-- The declarations with which every document begins. -/
def fixedDeclarations : List Declaration := [
  { heading := .input "GeoPointInput", groups := [geoPointFields] },
  { heading := .type "GeoPoint", groups := [geoPointFields] },
  { heading := .interface "Node"
    groups := [[{ name := "id", type := .required (.named "ID") }]] },
  { heading := .interface "Edge"
    groups := [[{ name := "id", type := .required (.named "ID") },
      { name := "node", type := .named "Node" }]] },
  { heading := .interface "Connection"
    groups := [[{ name := "nodes", type := .list (.named "Node") },
      { name := "edges", type := .list (.named "Edge") },
      { name := "pageInfo", type := .named "PageInfo" },
      { name := "totalCount", type := .required (.named "Int") }]] },
  { heading := .type "PageInfo"
    groups := [["endCursor", "hasNextPage", "hasPreviousPage", "startCursor"].map
      fun name => { name, type := .named "String" }] }]

/-- The declaration with which every document ends. -/
def rootDeclaration : Declaration where
  heading := .schema
  groups := [[{ name := "query", type := .named "Query" },
    { name := "mutation", type := .named "Mutation" }]]

/-- What generation declares, in the order of the document. -/
structure Outline where
  nodes : List (Declaration × Declaration)
  edges : List Declaration
  connections : List Declaration
  query : Declaration
  mutation : Declaration

namespace Outline

def of (nodes : List Node) (links : List Link) (outgoing : Node → List Link) : Outline where
  nodes := nodes.map fun n => (n.objectDeclaration (outgoing n), n.inputDeclaration)
  edges := links.map Link.edgeDeclaration
  connections := links.map Link.connectionDeclaration
  query := queryDeclaration nodes
  mutation := mutationDeclaration nodes outgoing

/-- The declarations between the fixed ones and the last. -/
def generated (o : Outline) : List Declaration :=
  o.nodes.flatMap (fun d => [d.1, d.2]) ++ o.edges ++ o.connections ++ [o.query, o.mutation]

def declarations (o : Outline) : List Declaration :=
  fixedDeclarations ++ o.generated ++ [rootDeclaration]

/-- The names of all types, inputs and interfaces. -/
def names (o : Outline) : List String := o.declarations.filterMap (·.heading.name?)

def references (o : Outline) : List String := o.declarations.flatMap Declaration.references

def text (o : Outline) : String :=
  assemble (o.nodes.map fun d => d.1.text ++ "\n\n" ++ d.2.text) (o.edges.map Declaration.text)
    (o.connections.map Declaration.text) o.query.text o.mutation.text

/-- What a declaration of an outline is: fixed, made from a node or from a link, or the queries, the
mutations and the schema. -/
inductive Declares (nodes : List Node) (links : List Link) (outgoing : Node → List Link) :
    Declaration → Prop
  | fixed {d} (hd : d ∈ fixedDeclarations) : Declares nodes links outgoing d
  | object {n} (hn : n ∈ nodes) : Declares nodes links outgoing (n.objectDeclaration (outgoing n))
  | input {n} (hn : n ∈ nodes) : Declares nodes links outgoing n.inputDeclaration
  | edge {l} (hl : l ∈ links) : Declares nodes links outgoing l.edgeDeclaration
  | connection {l} (hl : l ∈ links) : Declares nodes links outgoing l.connectionDeclaration
  | query : Declares nodes links outgoing (queryDeclaration nodes)
  | mutation : Declares nodes links outgoing (mutationDeclaration nodes outgoing)
  | root : Declares nodes links outgoing rootDeclaration

theorem mem_declarations_iff {nodes : List Node} {links : List Link} {outgoing : Node → List Link}
    {d : Declaration} :
    d ∈ (of nodes links outgoing).declarations ↔ Declares nodes links outgoing d := by
  simp only [declarations, generated, of, List.mem_append, List.flatMap_map, List.mem_flatMap,
    List.mem_map, List.mem_cons, List.not_mem_nil, or_false]
  constructor
  · rintro ((hd | (((⟨n, hn, rfl | rfl⟩ | ⟨l, hl, rfl⟩) | ⟨l, hl, rfl⟩) | rfl | rfl)) | rfl)
    · exact .fixed hd
    · exact .object hn
    · exact .input hn
    · exact .edge hl
    · exact .connection hl
    · exact .query
    · exact .mutation
    · exact .root
  · rintro (hd | hn | hn | hl | hl)
    · exact .inl (.inl hd)
    · exact .inl (.inr (.inl (.inl (.inl ⟨_, hn, .inl rfl⟩))))
    · exact .inl (.inr (.inl (.inl (.inl ⟨_, hn, .inr rfl⟩))))
    · exact .inl (.inr (.inl (.inl (.inr ⟨_, hl, rfl⟩))))
    · exact .inl (.inr (.inl (.inr ⟨_, hl, rfl⟩)))
    · exact .inl (.inr (.inr (.inl rfl)))
    · exact .inl (.inr (.inr (.inr rfl)))
    · exact .inr rfl

theorem names_of (nodes : List Node) (links : List Link) (outgoing : Node → List Link) :
    (of nodes links outgoing).names =
      fixedDeclarations.filterMap (·.heading.name?) ++
        (nodes.flatMap (fun n => [n.typeName, n.inputName]) ++ links.map Link.edgeName ++
          links.map Link.connectionName ++ ["Query", "Mutation"]) := by
  have hnodes : (nodes.flatMap fun n =>
      [n.objectDeclaration (outgoing n), n.inputDeclaration]).filterMap (·.heading.name?) =
        nodes.flatMap fun n => [n.typeName, n.inputName] := by
    rw [List.filterMap_flatMap]
    rfl
  have hedges : (links.map Link.edgeDeclaration).filterMap (·.heading.name?) =
      links.map Link.edgeName := by
    rw [List.filterMap_map, ← List.filterMap_eq_map]
    rfl
  have hconnections : (links.map Link.connectionDeclaration).filterMap (·.heading.name?) =
      links.map Link.connectionName := by
    rw [List.filterMap_map, ← List.filterMap_eq_map]
    rfl
  simp only [names, declarations, generated, of, List.filterMap_append, List.flatMap_map, hnodes,
    hedges, hconnections, List.append_assoc]
  rfl

end Outline
end GraphSchema
