import GraphSchema.Graph.Basic
import GraphSchema.Text.Blank
import GraphSchema.Text.Case

/-! Names of generated types: the words of a label, each with its first letter raised, joined. -/
namespace GraphSchema

namespace Label
open Text

/-- A lower-case letter or digit before a capital, all of them ASCII, ends a word. -/
def isBorder (c d : Char) : Bool :=
  (('a' ≤ c && c ≤ 'z') || ('0' ≤ c && c ≤ '9')) && ('A' ≤ d && d ≤ 'Z')

/-- Cuts a run of characters at its borders. -/
def humps : List Char → List (List Char)
  | [] => []
  | c :: cs =>
    match cs with
    | [] => [[c]]
    | d :: _ =>
      if isBorder c d then [c] :: humps cs
      else match humps cs with
        | [] => [[c]]
        | w :: ws => (c :: w) :: ws

def splitWords (cs : List Char) : List (List Char) := (words cs).flatMap humps

def capitalize : List Char → List Char
  | [] => []
  | c :: cs => upperChar c ++ lower cs

def normalize (cs : List Char) : List Char := (splitWords cs).flatMap capitalize

/-- The identifier made from a label. -/
def identifier (label : String) : String := String.ofList (normalize label.toList)

theorem toList_identifier (label : String) :
    (identifier label).toList = normalize label.toList := by simp [identifier]

end Label

/-- An edge with the nodes that its ids stand for. -/
structure Link where
  edge : Edge
  start : Node
  finish : Node
  deriving Repr, Inhabited

namespace Node

def typeName (n : Node) : String := Label.identifier n.label
def inputName (n : Node) : String := n.typeName ++ "Input"

/-- The label as it stands, in the plural. -/
def queryName (n : Node) : String := n.label ++ "s"

end Node

namespace Link

def baseName (l : Link) : String :=
  l.start.typeName ++ Label.identifier l.edge.label ++ l.finish.typeName

def edgeName (l : Link) : String := l.baseName ++ "Edge"
def connectionName (l : Link) : String := l.baseName ++ "Connection"

end Link
end GraphSchema
