import GraphSchema.Proofs.Graph.Validity
import GraphSchema.Proofs.Text.Names

/-! Identifiers put together from parts, and texts behind which no line feed stands, for which the
test that passes an identifier with a line feed behind it is exact. -/
namespace GraphSchema
open Text

namespace Text
variable {cs ds : List Char}

theorem isIdentifier_iff : isIdentifier cs = true ↔
    (∃ c, cs.head? = some c ∧ isIdentifierStart c = true) ∧
      ∀ c ∈ cs, isIdentifierPart c = true := by
  cases cs with
  | nil => simp [isIdentifier]
  | cons c cs =>
    have hpart (h : isIdentifierStart c = true) : isIdentifierPart c = true := by
      simp [isIdentifierPart, h]
    simp only [isIdentifier, Bool.and_eq_true, List.all_eq_true, List.head?_cons, Option.some.injEq,
      exists_eq_left', List.forall_mem_cons]
    exact ⟨fun h => ⟨h.1, hpart h.1, h.2⟩, fun h => ⟨h.1, h.2.2⟩⟩

theorem passesAsIdentifier_eq (h : cs.getLast? ≠ some '\n') :
    passesAsIdentifier cs = isIdentifier cs := by
  rw [passesAsIdentifier, if_neg h]

end Text

/-- A text that is an identifier over its full length. -/
def IsIdentifier (s : String) : Prop := isIdentifier s.toList = true

instance : DecidablePred IsIdentifier := fun _ => inferInstanceAs (Decidable (_ = true))

/-- A text that may follow an identifier: letters, digits and underscores. -/
def Extends (s : String) : Prop := ∀ c ∈ s.toList, isIdentifierPart c = true

instance : DecidablePred Extends :=
  fun s => List.decidableBAll (fun c => isIdentifierPart c = true) s.toList

section Joining
variable {s t u : String}

theorem extends_append : Extends (s ++ t) ↔ Extends s ∧ Extends t := by
  unfold Extends
  rw [String.toList_append]
  exact List.forall_mem_append

theorem IsIdentifier.extends (h : IsIdentifier s) : Extends s := (isIdentifier_iff.mp h).2

theorem IsIdentifier.not_mem {c : Char} (h : IsIdentifier s) (hc : isIdentifierPart c = false) :
    c ∉ s.toList := by
  intro hmem
  simp [h.extends c hmem] at hc

theorem IsIdentifier.append (hs : IsIdentifier s) (ht : Extends t) : IsIdentifier (s ++ t) := by
  obtain ⟨⟨c, hhead, hstart⟩, hparts⟩ := isIdentifier_iff.mp hs
  refine isIdentifier_iff.mpr ⟨⟨c, ?_, hstart⟩, extends_append.mpr ⟨hparts, ht⟩⟩
  rw [String.toList_append, List.head?_append, hhead]
  rfl

/-- An identifier stays one when its ending is exchanged for an identifier, also where nothing
stands before the ending. -/
theorem IsIdentifier.exchange (h : IsIdentifier (s ++ t)) (hu : IsIdentifier u) :
    IsIdentifier (s ++ u) := by
  obtain ⟨⟨c, hhead, hstart⟩, hparts⟩ := isIdentifier_iff.mp h
  obtain ⟨⟨d, hfirst, hinitial⟩, -⟩ := isIdentifier_iff.mp hu
  refine isIdentifier_iff.mpr ⟨?_, extends_append.mpr ⟨(extends_append.mp hparts).1, hu.extends⟩⟩
  rw [String.toList_append] at hhead ⊢
  cases hs : s.toList with
  | nil => exact ⟨d, hfirst, hinitial⟩
  | cons a as =>
    rw [hs] at hhead
    exact ⟨c, hhead, hstart⟩

end Joining

/-- No line feed ends the text. -/
def Sealed (s : String) : Prop := s.toList.getLast? ≠ some '\n'

instance : DecidablePred Sealed := fun _ => inferInstanceAs (Decidable (_ ≠ _))

section Sealing
variable {s t : String}

theorem sealed_of_not_blank (h : ∀ c ∈ s.toList.getLast?, isBlank c = false) : Sealed s :=
  fun hlast => absurd (h '\n' hlast) (by decide)

theorem sealed_of_solid (h : Solid s) : Sealed s :=
  sealed_of_not_blank fun c hc => h c (List.mem_of_getLast? hc)

theorem sealed_append (hne : t ≠ "") (ht : Sealed t) : Sealed (s ++ t) := by
  have hchars : t.toList ≠ [] := by simpa using hne
  unfold Sealed
  rw [String.toList_append, List.getLast?_append_of_ne_nil _ hchars]
  exact ht

/-- A label has been trimmed. -/
theorem ValidLabel.sealed (h : ValidLabel s) : Sealed s := by
  apply sealed_of_not_blank
  intro c hc
  rw [← h.2] at hc
  exact trimRight_getLast? hc

end Sealing
end GraphSchema
