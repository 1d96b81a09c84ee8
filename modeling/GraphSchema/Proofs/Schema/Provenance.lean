import GraphSchema.Proofs.Schema.References
import Mathlib.Data.List.Flatten

/-! Where the lines of a document come from: every line that is not blank is made from one node or
one edge, or stands in every document. -/
namespace GraphSchema

open Text

/-- The lines that a line of a declaration leaves in the document. More than one if it breaks. -/
def printed (l : String) : List (List Char) := (solidLines l.toList).map (trimRight isBlank)

/-- A line that neither breaks nor is trimmed is printed as it is. -/
theorem printed_line {l : String} (hbroken : Unbroken l.toList)
    (hend : trimRight isBlank l.toList = l.toList) (hne : l ≠ "") : printed l = [l.toList] := by
  have hchars : l.toList ≠ [] := by simpa using hne
  have hsolid : (!l.toList.all isBlank) = true := by
    obtain ⟨c, hc⟩ := Option.ne_none_iff_exists'.mp (mt List.getLast?_eq_none_iff.mp hchars)
    have hblank : isBlank c = false := trimRight_getLast? (hend.symm ▸ hc)
    rw [Bool.not_eq_true', List.all_eq_false]
    exact ⟨c, List.mem_of_getLast? hc, Bool.eq_false_iff.mp hblank⟩
  have hline : solidLines l.toList = [l.toList] := by
    rw [solidLines, splitLines_of_no_break hchars hbroken]
    exact List.filter_cons_of_pos hsolid
  rw [printed, hline, List.map_singleton, hend]

theorem printed_spaced (gs : List (List String)) :
    (spaced gs).flatMap printed = gs.flatten.flatMap printed := by
  induction gs with
  | nil => rfl
  | cons g gs ih =>
    cases gs with
    | nil => rw [spaced, List.flatten_singleton]
    | cons k ks =>
      rw [spaced, List.flatten_cons, List.flatMap_append, List.flatMap_append, ← ih]
      rfl

namespace Outline

/-- The empty lines between declarations are not printed. -/
theorem printed_rawLines (o : Outline) :
    o.rawLines.flatMap printed =
      fixedLines.flatMap printed ++
        (o.generated.flatMap Declaration.lines ++ rootDeclaration.lines).flatMap printed := by
  rw [rawLines, List.flatMap_append, List.flatMap_cons, List.flatMap_cons, printed_spaced,
    List.flatten_append, ← List.flatMap_def, List.flatten_singleton]
  rfl

theorem solidLines_text (o : Outline) :
    solidLines o.text.toList = o.rawLines.flatMap printed := by
  have htrimmed : (fun l : List Char => !l.all isBlank) ∘ trimRight isBlank =
      fun l => !l.all isBlank := funext fun l => congrArg not (trimRight_all_blank l)
  rw [solidLines, splitLines_text, filter_squeeze, List.filter_map, htrimmed, List.filter_flatMap,
    List.map_flatMap]
  refine List.flatMap_congr fun l _ => ?_
  rw [printed, ← solidLines_append_end, solidLines]

section Headings
open scoped List

theorem printed_heading {h : Heading} (hh : h.Plain) : printed h.text = [h.text.toList] := by
  refine printed_line hh.unbroken_text hh.trimRight_text ?_
  rintro hempty
  cases hname : h.name? with
  | none =>
    obtain rfl := Heading.eq_schema_of_name? hname
    exact absurd hempty (by decide)
  | some name =>
    obtain ⟨word, -, rest, -, htext⟩ := Heading.toList_text hh hname
    simp [hempty] at htext

/-- The headings of the generated declarations are lines of the document, in their order. -/
theorem headings_sublist {o : Outline} (hplain : ∀ d ∈ o.generated, d.heading.Plain) :
    (o.generated.map (·.heading.text.toList)).Sublist (splitLines o.text.toList) := by
  have hprinted : o.generated.map (·.heading.text.toList) =
      (o.generated.flatMap fun d => [d.heading.text]).flatMap printed := by
    rw [List.map_eq_flatMap, List.flatMap_assoc]
    refine List.flatMap_congr fun d hd => ?_
    rw [List.flatMap_singleton, printed_heading (hplain d hd)]
  have hlines : (o.generated.flatMap fun d => [d.heading.text]).Sublist
      (o.generated.flatMap Declaration.lines ++ rootDeclaration.lines) := by
    refine (List.Sublist.flatMap_right _ fun d _ => ?_).trans (List.sublist_append_left ..)
    exact List.singleton_sublist.mpr (by simp [Declaration.lines])
  calc o.generated.map (·.heading.text.toList)
      = (o.generated.flatMap fun d => [d.heading.text]).flatMap printed := hprinted
    _ <+ o.rawLines.flatMap printed := by
      rw [printed_rawLines]
      exact (hlines.flatMap printed).trans (List.sublist_append_right ..)
    _ = solidLines o.text.toList := (solidLines_text o).symm
    _ <+ splitLines o.text.toList := List.filter_sublist

end Headings
end Outline

/-- What a line of the document is and what it is made from. Fields and mutations of an edge stand
among those of a node. -/
inductive Source where
  | fixed
  | object (nodeId : String)
  | input (nodeId : String)
  | query (nodeId : String)
  | mutation (nodeId : String)
  | connectionField (nodeId edgeId : String)
  | edgeType (edgeId : String)
  | connectionType (edgeId : String)
  | edgeMutation (nodeId edgeId : String)
  deriving DecidableEq, Repr

/-- A line with its source. -/
structure Sourced where
  source : Source
  text : String
  deriving DecidableEq, Repr

namespace Sourced

def lines (x : Sourced) : List (List Char) := printed x.text

end Sourced

namespace Source

/-- The node that a line is made from. -/
def node? : Source → Option String
  | object id | input id | query id | mutation id => some id
  | _ => none

/-- The edge that a line is made from. -/
def edge? : Source → Option String
  | connectionField _ id | edgeType id | connectionType id | edgeMutation _ id => some id
  | _ => none

def ascribe (s : Source) (ls : List String) : List Sourced := ls.map (⟨s, ·⟩)

@[simp] theorem text_ascribe (s : Source) (ls : List String) : (s.ascribe ls).map Sourced.text = ls := by
  rw [ascribe, List.map_map]
  exact List.map_id ls

end Source

namespace Node

/-- Both types of a node, with the fields of its outgoing links in the object type. -/
def typesSourced (n : Node) (outgoing : List Link) : List Sourced :=
  Source.ascribe (.object n.id)
      ((n.objectDeclaration []).heading.text :: n.properties.flatMap (·.field.lines)) ++
    outgoing.flatMap (fun l => Source.ascribe (.connectionField n.id l.edge.id) l.field.lines) ++
    Source.ascribe (.object n.id) ["\x7d"] ++
    Source.ascribe (.input n.id) n.inputDeclaration.lines

def querySourced (n : Node) : List Sourced := Source.ascribe (.query n.id) n.queryDecl.lines

/-- The mutations of a node, then those of its outgoing links. -/
def mutationsSourced (n : Node) (outgoing : List Link) : List Sourced :=
  Source.ascribe (.mutation n.id) ((n.mutationFields []).flatMap FieldDecl.lines) ++
    outgoing.flatMap fun l =>
      Source.ascribe (.edgeMutation n.id l.edge.id) (l.mutationFields.flatMap FieldDecl.lines)

end Node

namespace Link

def edgeSourced (l : Link) : List Sourced :=
  Source.ascribe (.edgeType l.edge.id) l.edgeDeclaration.lines

def connectionSourced (l : Link) : List Sourced :=
  Source.ascribe (.connectionType l.edge.id) l.connectionDeclaration.lines

end Link

namespace Store

/-- The lines of the document of a store in their order, each with its source. -/
def sourced (s : Store) : List Sourced :=
  let outgoing (n : Node) := s.knownFrom s.links n.id
  Source.ascribe .fixed Outline.fixedLines ++
    s.allNodes.flatMap (fun n => n.typesSourced (outgoing n)) ++
    s.links.flatMap Link.edgeSourced ++
    s.links.flatMap Link.connectionSourced ++
    Source.ascribe .fixed ["# the schema allows the following query:", "type Query \x7b",
      indent ++ "nodes(id:[ID]): [Node]"] ++
    s.allNodes.flatMap Node.querySourced ++
    Source.ascribe .fixed ["\x7d", "type Mutation \x7b"] ++
    s.allNodes.flatMap (fun n => n.mutationsSourced (outgoing n)) ++
    Source.ascribe .fixed ("\x7d" :: rootDeclaration.lines)

end Store

section Texts
variable {n : Node} {outgoing : List Link}

theorem Node.text_typesSourced :
    (n.typesSourced outgoing).map Sourced.text =
      (n.objectDeclaration outgoing).lines ++ n.inputDeclaration.lines := by
  have hfields : (n.properties.map Property.field ++ outgoing.map Link.field).flatMap
      FieldDecl.lines = n.properties.flatMap (·.field.lines) ++
        outgoing.flatMap (·.field.lines) := by
    rw [List.flatMap_append, List.flatMap_map, List.flatMap_map]
  have hobject : (n.objectDeclaration outgoing).lines =
      (n.objectDeclaration []).heading.text :: n.properties.flatMap (·.field.lines) ++
        outgoing.flatMap (·.field.lines) ++ ["\x7d"] := by
    calc (n.objectDeclaration outgoing).lines
        = (n.objectDeclaration outgoing).heading.text :: (n.properties.map Property.field ++
            outgoing.map Link.field).flatMap FieldDecl.lines ++ ["\x7d"] := rfl
      _ = _ := by
        rw [hfields]
        simp only [List.cons_append, List.append_assoc]
        rfl
  rw [Node.typesSourced, hobject]
  simp only [List.map_append, List.map_flatMap, Source.text_ascribe]

theorem Node.text_mutationsSourced :
    (n.mutationsSourced outgoing).map Sourced.text =
      (n.mutationFields outgoing).flatMap FieldDecl.lines := by
  rw [Node.mutationsSourced, List.map_append, List.map_flatMap, Node.mutationFields,
    Node.mutationFields]
  simp only [Source.text_ascribe, List.flatMap_append, List.flatMap_nil, List.append_nil,
    List.flatMap_assoc]

theorem queryDeclaration_lines (nodes : List Node) :
    (queryDeclaration nodes).lines =
      ["# the schema allows the following query:", "type Query \x7b",
        indent ++ "nodes(id:[ID]): [Node]"] ++ nodes.flatMap (·.queryDecl.lines) ++ ["\x7d"] := by
  calc (queryDeclaration nodes).lines
      = ["# the schema allows the following query:", "type Query \x7b"] ++
          (nodesQuery :: nodes.map Node.queryDecl).flatMap FieldDecl.lines ++ ["\x7d"] := rfl
    _ = _ := by
      rw [List.flatMap_cons, List.flatMap_map]
      rfl

/-- Empty lines between the groups are not printed. -/
theorem printed_mutationDeclaration (nodes : List Node) (outgoing : Node → List Link) :
    (mutationDeclaration nodes outgoing).lines.flatMap printed =
      ("type Mutation \x7b" :: nodes.flatMap (fun n =>
        (n.mutationFields (outgoing n)).flatMap FieldDecl.lines) ++ ["\x7d"]).flatMap printed := by
  calc (mutationDeclaration nodes outgoing).lines.flatMap printed
      = ("type Mutation \x7b" :: (spaced ((nodes.map fun n =>
          n.mutationFields (outgoing n)).map (·.flatMap FieldDecl.lines)) ++ ["\x7d"])).flatMap
            printed := rfl
    _ = _ := by
      rw [List.flatMap_cons, List.flatMap_append, printed_spaced, List.map_map,
        ← List.flatMap_def]
      simp only [List.flatMap_cons, List.flatMap_append, List.cons_append]
      rfl

/-- The generated declarations line by line. -/
theorem Outline.lines_of (nodes : List Node) (links : List Link) (outgoing : Node → List Link) :
    (of nodes links outgoing).generated.flatMap Declaration.lines =
      nodes.flatMap (fun n => (n.objectDeclaration (outgoing n)).lines ++ n.inputDeclaration.lines) ++
        links.flatMap (·.edgeDeclaration.lines) ++ links.flatMap (·.connectionDeclaration.lines) ++
        ((queryDeclaration nodes).lines ++ (mutationDeclaration nodes outgoing).lines) := by
  simp only [generated, of, List.flatMap_append, List.flatMap_map, List.flatMap_assoc,
    List.flatMap_cons, List.flatMap_nil, List.append_nil]

end Texts

namespace Store
variable {s : Store}

theorem printed_outline (s : Store) :
    s.outline.rawLines.flatMap printed = s.sourced.flatMap Sourced.lines := by
  have hsourced : s.sourced.flatMap Sourced.lines =
      (s.sourced.map Sourced.text).flatMap printed := by
    rw [List.flatMap_map]
    rfl
  have htexts : s.sourced.map Sourced.text =
      Outline.fixedLines ++ s.allNodes.flatMap (fun n =>
          (n.objectDeclaration (s.knownFrom s.links n.id)).lines ++ n.inputDeclaration.lines) ++
        s.links.flatMap (·.edgeDeclaration.lines) ++
        s.links.flatMap (·.connectionDeclaration.lines) ++
        ["# the schema allows the following query:", "type Query \x7b",
          indent ++ "nodes(id:[ID]): [Node]"] ++ s.allNodes.flatMap (·.queryDecl.lines) ++
        ["\x7d", "type Mutation \x7b"] ++ s.allNodes.flatMap (fun n =>
          (n.mutationFields (s.knownFrom s.links n.id)).flatMap FieldDecl.lines) ++
        "\x7d" :: rootDeclaration.lines := by
    simp only [sourced, List.map_append, List.map_flatMap, Source.text_ascribe,
      Node.text_typesSourced, Node.text_mutationsSourced, Node.querySourced, Link.edgeSourced,
      Link.connectionSourced]
  rw [Outline.printed_rawLines, hsourced, htexts, outline, Outline.lines_of, queryDeclaration_lines]
  simp only [List.flatMap_append, printed_mutationDeclaration, List.flatMap_cons, List.flatMap_nil,
    List.append_assoc, List.cons_append, List.nil_append]

/-- The document is made of the sourced lines. -/
theorem solidLines_document {d : Diagnosis} {g : Generated}
    (h : (d.generate s.provider).outcome = .ok g) :
    solidLines g.document.toList = s.sourced.flatMap Sourced.lines := by
  rw [(generate_outline h).2.2, Outline.solidLines_text, printed_outline]

end Store
end GraphSchema
