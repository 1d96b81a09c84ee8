import GraphSchema.Proofs.Schema.Printing
import GraphSchema.Proofs.Text.Flush

/-! Putting a document together: where every part begins with a character that is not blank, the
parts are collapsed each by itself, and no line passes from one to the next. -/
namespace GraphSchema

/-- A text that the document is put together from. -/
inductive Fragment : String → Prop
  | node {n : Node} {outgoing : List Link} {t : String} (h : n.fragment outgoing = .ok t) :
    Fragment t
  | edge {l : Link} {t : String} (h : l.edgeFragment = .ok t) : Fragment t
  | connection (l : Link) : Fragment l.connectionFragment
  | query (nodes : List Node) : Fragment (queryType nodes)
  | mutation (nodes : List Node) (outgoing : Outgoing) : Fragment (mutationType nodes outgoing)

section Printed

theorem flush_append {s : String} (h : Text.Flush s.toList) (t : String) :
    Text.Flush (s ++ t).toList := by
  rw [String.toList_append]
  exact h.append _

theorem flush_joined {l : String} (h : Text.Flush l.toList) (ls : List String) :
    Text.Flush (joined (l :: ls)).toList := by
  obtain ⟨rest, hrest⟩ := Text.exists_joinLines_cons (ls.map String.toList)
  rw [toList_joined, List.map_cons, hrest]
  exact h.append rest

theorem Heading.flush_text (h : Heading) : Text.Flush h.text.toList := by
  cases h with
  | type name base =>
    cases base with
    | none =>
      rw [text, String.append_assoc]
      exact flush_append (by decide) _
    | some base =>
      rw [text, String.append_assoc, String.append_assoc, String.append_assoc]
      exact flush_append (by decide) _
  | input name =>
    rw [text, String.append_assoc]
    exact flush_append (by decide) _
  | interface name =>
    rw [text, String.append_assoc]
    exact flush_append (by decide) _
  | schema => decide

/-- A declaration begins with its first remark or its heading. -/
theorem Declaration.flush_text {d : Declaration} (h : ∀ r ∈ d.remarks, Text.Flush r.toList) :
    Text.Flush d.text.toList := by
  rw [Declaration.text, Declaration.lines]
  cases hr : d.remarks with
  | nil => exact flush_joined d.heading.flush_text _
  | cons r rs => exact flush_joined (h r (by simp [hr])) _

/-- Whatever is printed begins with a character that is not blank. -/
theorem Fragment.flush {t : String} (h : Fragment t) : Text.Flush t.toList := by
  have hbare {d : Declaration} (hd : d.remarks = []) : Text.Flush d.text.toList :=
    Declaration.flush_text (by simp [hd])
  cases h with
  | node h =>
    obtain ⟨-, rfl⟩ := Node.fragment_eq_ok.mp h
    rw [String.append_assoc]
    exact flush_append (hbare rfl) _
  | edge h =>
    obtain ⟨-, rfl⟩ := Link.edgeFragment_eq_ok.mp h
    exact hbare rfl
  | connection l =>
    rw [Link.connectionFragment_eq]
    exact hbare rfl
  | query nodes =>
    rw [queryType_eq]
    apply Declaration.flush_text
    intro r hr
    obtain rfl := List.mem_singleton.mp hr
    decide
  | mutation nodes outgoing =>
    rw [mutationType_eq]
    exact hbare rfl

end Printed

/-- The parts of a document in order: what is fixed, the fragments, and the closing block. -/
def documentParts (nodes edges connections : List String) (query mutation : String) :
    List String :=
  [boilerplate] ++ nodes ++ edges ++ connections ++ [query, mutation, schemaBlock]

/-- Where the fragments begin with a character that is not blank, as all that are printed do, a
document is its parts, each collapsed by itself, with exactly one empty line between neighbours. Its
lines are the lines of the parts: no part is empty or begins or ends with a blank line. -/
theorem assemble_fragmentwise (nodes edges connections : List String) (query mutation : String)
    (h : ∀ t ∈ nodes ++ edges ++ connections ++ [query, mutation], Text.Flush t.toList) :
    let parts := documentParts nodes edges connections query mutation
    let lines := fun t => Text.splitLines (collapseBlankLines t).toList
    let document := assemble nodes edges connections query mutation
    document = "\n\n".intercalate (parts.map collapseBlankLines) ∧
      Text.splitLines document.toList = [[]].intercalate (parts.map lines) ∧
      (∀ t ∈ parts, lines t ≠ [] ∧ Text.Tidy (lines t)) ∧
      ∀ t, Fragment t → Text.Flush t.toList := by
  intro parts lines document
  have hparts : ∀ t ∈ parts, Text.Flush t.toList := by
    intro t ht
    have hsame : parts = boilerplate :: (nodes ++ edges ++ connections ++ [query, mutation]) ++
        [schemaBlock] := by simp [parts, documentParts]
    rw [hsame, List.mem_append, List.mem_cons, List.mem_singleton] at ht
    rcases ht with (rfl | ht) | rfl
    · unfold boilerplate
      exact flush_joined (by decide) _
    · exact h t ht
    · unfold schemaBlock
      exact flush_joined (by decide) _
  have hdocument : document = "\n\n".intercalate (parts.map collapseBlankLines) :=
    collapseBlankLines_intercalate hparts
  refine ⟨hdocument, ?_, ?_, fun t ht => ht.flush⟩
  · rw [hdocument]
    exact splitLines_intercalate hparts
  · intro t ht
    obtain ⟨htidy, hne, -⟩ := (hparts t ht).collapse
    simp only [lines, toList_collapseBlankLines]
    exact ⟨hne, htidy⟩

/-- Fragments with blank lines inside and with several kinds of breaks at their ends, among them a
carriage return that the separator fuses with. -/
theorem assemble_broken_ends :
    let nodes := ["type A \x7b\n\n \n  b: Int\n\x7d\r", "type C \x7b\x7d\n\n\n"]
    let parts := documentParts nodes [] [] "type Query\u0085" "type Mutation \t\r\n"
    (∀ t ∈ nodes ++ [] ++ [] ++ ["type Query\u0085", "type Mutation \t\r\n"],
      Text.Flush t.toList) ∧
      assemble nodes [] [] "type Query\u0085" "type Mutation \t\r\n" =
        "\n\n".intercalate (parts.map collapseBlankLines) ∧
      nodes.map collapseBlankLines = ["type A \x7b\n\n  b: Int\n\x7d", "type C \x7b\x7d"] := by
  intro nodes parts
  have hflush : ∀ t ∈ nodes ++ [] ++ [] ++ ["type Query\u0085", "type Mutation \t\r\n"],
      Text.Flush t.toList := by decide
  exact ⟨hflush, (assemble_fragmentwise nodes [] [] _ _ hflush).1, by decide⟩

end GraphSchema
