import GraphSchema.Proofs.Graph.Validated
import GraphSchema.Proofs.Schema.Blocks

/-! The text of a property. Its declaration is always the last line; the comment is the one line
before it exactly if neither the description nor a default that is a text holds a line break. -/
namespace GraphSchema
open Text

namespace Property
variable {p : Property} {s : Scalar} {indent : String}

theorem unbroken_declarationFor (hvalid : p.Valid) (hs : p.scalar? = some s) :
    Unbroken (p.declarationFor s).toList := by
  rw [← field_text hs]
  exact unbroken_field_text hvalid

/-- The description and the default stand in the comment as they are. -/
theorem oneLine_of_unbroken (hvalid : p.Valid) (h : Unbroken (p.commentFor s).toList) :
    p.OneLine := by
  obtain ⟨t, ht⟩ := hvalid.description
  simp only [commentFor, String.toList_append, unbroken_append] at h
  obtain ⟨⟨⟨⟨-, hdescription⟩, hdefault⟩, -⟩, -⟩ := h
  constructor
  case description =>
    rw [ht] at hdescription ⊢
    by_cases hempty : t = ""
    · rw [hempty]
      exact unbroken_nil
    · change Unbroken t.toList
      simpa [Value.counts, hempty, Value.toText] using hdescription
  case defaultValue =>
    cases hd : p.defaultValue with
    | text d =>
      rw [hd] at hdefault
      by_cases hempty : d = ""
      · rw [hempty]
        exact unbroken_nil
      · simp only [remark, Value.isSet, hempty, ne_eq, not_false_eq_true, decide_true, ↓reduceIte,
          String.toList_append, unbroken_append] at hdefault
        exact hdefault.2
    | _ => trivial

section Values
variable (hs : p.scalar? = some s) (hvalues : p.beyond? = none)
include hs hvalues

theorem comment_of_scalar : p.comment = .ok (p.commentFor s) := by
  rw [comment, described_eq_ok.mpr ⟨hs, hvalues⟩]
  rfl

theorem render_of_scalar :
    p.render indent = .ok (indent ++ p.commentFor s ++ "\n" ++ (indent ++ p.declarationFor s)) := by
  rw [render, lines, described_eq_ok.mpr ⟨hs, hvalues⟩]
  rfl

end Values

theorem render_of_beyond {limit : WritingLimit} (hs : p.scalar? = some s)
    (hlimit : p.beyond? = some limit) : p.render indent = .error (.beyond limit) := by
  rw [render, lines, described, scalar, hs]
  simp only [hlimit]
  rfl

theorem exists_commentFor (p : Property) (s : Scalar) :
    ∃ remarks, p.commentFor s = "#" ++ remarks := by
  unfold commentFor
  simp only [String.append_assoc]
  exact ⟨_, rfl⟩

/-- The text of a validated property: what its comment breaks into, and then its declaration. These
are just two lines if and only if the texts that a user wrote into it hold no line break. There is no
text if one of the values cannot be written. -/
theorem lines_of_render (h : p.Validated) (hindent : Unbroken indent.toList) :
    (∀ limit, p.beyond? = some limit → p.render indent = .error (.beyond limit)) ∧
    (p.beyond? = none → ∃ (t : Scalar) (remarks text : String), p.type = .text t.name ∧
      p.comment = .ok ("#" ++ remarks) ∧ p.render indent = .ok text ∧
      let first := (indent ++ ("#" ++ remarks)).toList
      let second := (indent ++ (p.key ++ ": " ++ t.name ++
        if p.isRequired.counts then "!" else "")).toList
      splitLines text.toList = splitLines (first ++ ['\n']) ++ [second] ∧
        (splitLines text.toList = [first, second] ↔ p.OneLine)) := by
  have hvalid := h.valid
  obtain ⟨t, ht⟩ := hvalid.exists_scalar
  obtain ⟨remarks, hremarks⟩ := p.exists_commentFor t
  refine ⟨fun limit => render_of_beyond ht, fun hvalues => ⟨t, remarks, _, type_of_scalar? ht,
    hremarks ▸ comment_of_scalar ht hvalues, render_of_scalar ht hvalues, ?_⟩⟩
  rw [← hremarks]
  intro first second
  have hsecond : Unbroken second := by
    change Unbroken (indent ++ p.declarationFor t).toList
    rw [String.toList_append, unbroken_append]
    exact ⟨hindent, unbroken_declarationFor hvalid ht⟩
  have hne : second ≠ [] := by simp [second]
  have hfirst : Unbroken first ↔ p.OneLine := by
    change Unbroken (indent ++ p.commentFor t).toList ↔ p.OneLine
    rw [String.toList_append, unbroken_append, and_iff_right hindent]
    exact ⟨oneLine_of_unbroken hvalid, fun hline => unbroken_commentFor hvalid hline t⟩
  have htext : (indent ++ p.commentFor t ++ "\n" ++ (indent ++ p.declarationFor t)).toList =
      first ++ '\n' :: second := by
    rw [String.toList_append, String.toList_append, List.append_assoc]
    rfl
  rw [htext]
  exact ⟨splitLines_append_line hsecond hne, (splitLines_eq_pair_iff hsecond hne).trans hfirst⟩

/-- A description that goes on in a second line, with what reads like a field. -/
def intruder : Value := .object [
  ("key", .text "name"), ("description", .text "Full name\n  admin: Boolean!")]

theorem lines_of_render_intruder :
    ∃ p : Property, p.Validated ∧ Unbroken "  ".toList ∧ p.beyond? = none ∧
      ∃ (t : Scalar) (remarks text : String), p.type = .text t.name ∧
        p.comment = .ok ("#" ++ remarks) ∧ p.render "  " = .ok text ∧
        let first := ("  " ++ ("#" ++ remarks)).toList
        let second := ("  " ++ (p.key ++ ": " ++ t.name ++
          if p.isRequired.counts then "!" else "")).toList
        splitLines text.toList = splitLines (first ++ ['\n']) ++ [second] ∧
          (splitLines text.toList = [first, second] ↔ p.OneLine) := by
  have hcheck : Property.check intruder = .ok _ := rfl
  have hindent : Unbroken "  ".toList := by decide
  exact ⟨_, .checked hcheck, hindent, rfl, (lines_of_render (.checked hcheck) hindent).2 rfl⟩

/-- The second line of the description is a line of the document. -/
theorem render_intruder :
    ∃ p text, Property.check intruder = .ok p ∧ p.render "  " = .ok text ∧
      splitLines text.toList =
        ["  #Full name".toList, "  admin: Boolean!".toList, "  name: String".toList] :=
  ⟨_, _, rfl, rfl, by decide +kernel⟩

end Property
end GraphSchema
