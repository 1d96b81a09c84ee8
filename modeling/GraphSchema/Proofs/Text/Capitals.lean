import GraphSchema.Proofs.Text.Names

/-! Upper case leaves no small ASCII letter, so that no name made from a label begins with one. -/
namespace GraphSchema.Text

/-- The code points of the small ASCII letters. -/
def isSmallCode (n : Nat) : Bool := 97 ≤ n && n ≤ 122

theorem isSmallCode_eq_inRanges (n : Nat) : isSmallCode n = inRanges [(97, 122)] n := by
  simp [isSmallCode, inRanges]

/-- Small ASCII letters are in a run, and so are not their own upper case. -/
theorem not_small_of_unmapped {n : Nat} (h : mapThrough upperRuns n = none) :
    isSmallCode n = false := by
  have hmapped : ∀ k < 26, (mapThrough upperRuns (97 + k)).isSome := by decide +kernel
  rw [Bool.eq_false_iff]
  intro hsmall
  obtain ⟨hlow, hhigh⟩ : 97 ≤ n ∧ n ≤ 122 := by simpa [isSmallCode] using hsmall
  have hsome := hmapped (n - 97) (by omega)
  rw [Nat.add_sub_cancel' hlow, h] at hsome
  exact absurd hsome (by decide)

theorem not_small_of_mem_upperChar {c d : Char} (hd : d ∈ upperChar c) :
    isSmallCode d.toNat = false := by
  have havoids : avoids upperExpansions upperRuns [(97, 122)] = true := by decide +kernel
  rw [isSmallCode_eq_inRanges]
  refine not_inRanges_of_mem_mapChar havoids (by decide) (fun hn => ?_) hd
  rw [← isSmallCode_eq_inRanges]
  exact not_small_of_unmapped hn

end GraphSchema.Text

namespace GraphSchema

theorem Label.not_small_of_head? {cs : List Char} {c : Char} (h : (normalize cs).head? = some c) :
    Text.isSmallCode c.toNat = false := by
  cases hw : splitWords cs with
  | nil => simp [normalize, hw] at h
  | cons w ws =>
    obtain ⟨d, ds, rfl⟩ :=
      List.exists_cons_of_ne_nil (mem_splitWords (hw ▸ List.mem_cons_self ..)).1
    have hhead : (Text.upperChar d).head? = some c := by
      rw [normalize, hw, List.flatMap_cons, capitalize, List.append_assoc,
        List.head?_append_of_ne_nil _ (Text.upperChar_ne_nil d)] at h
      exact h
    exact Text.not_small_of_mem_upperChar (List.mem_of_mem_head? hhead)

theorem Node.typeName_ne_of_small {n : Node} {name : String} {c : Char}
    (hc : name.toList.head? = some c) (hsmall : Text.isSmallCode c.toNat = true) :
    n.typeName ≠ name := by
  rintro rfl
  rw [Node.typeName, Label.toList_identifier] at hc
  rw [Label.not_small_of_head? hc] at hsmall
  exact absurd hsmall (by decide)

end GraphSchema
