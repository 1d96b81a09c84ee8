import GraphSchema.Text.Quoted

/-! Paths in their normal form: no empty parts, none that stands for the same directory. -/
namespace GraphSchema

/-- The anchor is empty, one slash or two; a path with exactly two leading slashes keeps them. -/
structure Path where
  anchor : String
  parts : List String
  deriving DecidableEq, Repr, Inhabited

namespace Path

/-- The pieces of a text between slashes. -/
def pieces : List Char → List (List Char)
  | [] => [[]]
  | c :: cs =>
    if c = '/' then [] :: pieces cs
    else
      match pieces cs with
      | [] => [[c]]
      | p :: ps => (c :: p) :: ps

def ofString (s : String) : Path :=
  let cs := s.toList
  let slashes := (cs.takeWhile (· = '/')).length
  { anchor := if slashes = 0 then "" else if slashes = 2 then "//" else "/"
    parts := ((pieces cs).filter fun p => p ≠ [] && p ≠ ['.']).map String.ofList }

def toString (p : Path) : String :=
  if p.anchor = "" ∧ p.parts = [] then "." else p.anchor ++ "/".intercalate p.parts

/-- No file has a name with a null character in it. -/
def hasNull (p : Path) : Bool := p.parts.any fun part => part.toList.contains '\x00'

/-- What is told of a path with a null character. -/
def nullMessage : String := "embedded null byte"

def parent (p : Path) : Path := { p with parts := p.parts.dropLast }

/-- The directories that lead to a path, the nearest first. -/
def parents (p : Path) : List Path :=
  (List.range p.parts.length).map fun k => { p with parts := p.parts.take (p.parts.length - 1 - k) }

end Path
end GraphSchema
