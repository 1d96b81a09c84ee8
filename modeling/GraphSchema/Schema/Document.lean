import GraphSchema.Schema.Types
import GraphSchema.Text.Blank
import GraphSchema.Text.Lines

/-! The schema document: fixed declarations, the generated ones in order, and the closing block,
with single blank lines between them. -/
namespace GraphSchema

def boilerplate : String := joined [
  "scalar Datetime",
  "scalar Email",
  "scalar Url",
  "scalar Password",
  "",
  "input GeoPointInput \x7b",
  "  lat: Float!",
  "  lng: Float!",
  "\x7d",
  "",
  "type GeoPoint \x7b",
  "  lat: Float!",
  "  lng: Float!",
  "\x7d",
  "",
  "interface Node \x7b",
  "  id: ID!",
  "\x7d",
  "",
  "interface Edge \x7b",
  "  id: ID!",
  "  node: Node",
  "\x7d",
  "",
  "interface Connection \x7b",
  "  nodes: [Node]",
  "  edges: [Edge]",
  "  pageInfo: PageInfo",
  "  totalCount: Int!",
  "\x7d",
  "",
  "type PageInfo \x7b",
  "  endCursor: String",
  "  hasNextPage: String",
  "  hasPreviousPage: String",
  "  startCursor: String",
  "\x7d",
  ""]

def schemaBlock : String := joined [
  "schema \x7b",
  "  query: Query",
  "  mutation: Mutation",
  "\x7d",
  ""]

/-- Names that the fixed declarations or the grammar itself take. -/
def reservedNames : List String := [
  "Datetime", "Email", "Url", "Password", "GeoPointInput", "GeoPoint",
  "Node", "Edge", "Connection", "PageInfo", "Query", "Mutation",
  "String", "Int", "Float", "Boolean", "ID"]

namespace Text

/-- Keeps one of each run of empty lines. -/
def squeeze : List (List Char) → List (List Char)
  | [] => []
  | [l] => [l]
  | l :: m :: ls => if l.isEmpty && m.isEmpty then squeeze (m :: ls) else l :: squeeze (m :: ls)

/-- Lines lose the blanks at their ends, runs of empty lines become one, and the whole is trimmed.
-/
def collapse (cs : List Char) : List Char :=
  trim isBlank (joinLines (squeeze ((splitLines cs).map (trimRight isBlank))))

end Text

def collapseBlankLines (text : String) : String := String.ofList (Text.collapse text.toList)

def assemble (nodes edges connections : List String) (query mutation : String) : String :=
  collapseBlankLines ("\n\n".intercalate
    ([boilerplate] ++ nodes ++ edges ++ connections ++ [query, mutation, schemaBlock]))

end GraphSchema
