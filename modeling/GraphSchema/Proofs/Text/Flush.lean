import GraphSchema.Proofs.Text.Passages

/-! Texts that begin with a character that is not blank. With empty lines between them they are
collapsed each by itself, and the lines of the whole are the lines of each. -/
namespace GraphSchema

namespace Text

/-- The text begins with a character that is not blank. -/
def Flush (cs : List Char) : Prop := ∃ c ∈ cs.head?, isBlank c = false

instance : DecidablePred Flush := fun cs =>
  decidable_of_iff ((cs.head?.any fun c => !isBlank c) = true) (by simp [Flush, Option.any_eq_true])

section Flush
variable {a b : List Char}

theorem Flush.append (h : Flush a) (b : List Char) : Flush (a ++ b) := by
  obtain ⟨c, hc, hblank⟩ := h
  exact ⟨c, by simp [List.head?_append, Option.mem_def.mp hc], hblank⟩

theorem Flush.not_blank (h : Flush a) : a.all isBlank = false := by
  obtain ⟨c, hc, hblank⟩ := h
  exact all_blank_eq_false.mpr ⟨c, List.mem_of_mem_head? hc, hblank⟩

theorem Flush.trimLeft (h : Flush a) : trimLeft isBlank a = a := by
  obtain ⟨c, hc, hblank⟩ := h
  obtain ⟨cs, rfl⟩ := List.head?_eq_some_iff.mp hc
  exact List.dropWhile_cons_of_neg (by simp [hblank])

/-- What a text begins with its first line begins with. -/
theorem Flush.splitLines (h : Flush a) : ∃ l ls, splitLines a = l :: ls ∧ Flush l := by
  obtain ⟨c, hc, hblank⟩ := h
  obtain ⟨cs, rfl⟩ := List.head?_eq_some_iff.mp hc
  have hbreak : isLineBreak c = false :=
    Bool.eq_false_iff.mpr fun h => by simp [isBlank_of_isLineBreak h] at hblank
  rw [splitLines_cons hbreak]
  cases Text.splitLines cs with
  | nil => exact ⟨[c], [], rfl, c, rfl, hblank⟩
  | cons l ls => exact ⟨c :: l, ls, rfl, c, rfl, hblank⟩

/-- No blank line stands in front of the first passage. -/
theorem Flush.exists_passages (h : Flush a) :
    ∃ (p : Passage) (ps : List Passage) (rest : List (List Char)),
      Text.splitLines a = (p :: ps).flatMap Passage.lines ++ rest ∧
      (∀ l ∈ rest, l.all isBlank = true) ∧ p.gap = [] ∧ Flush p.line := by
  obtain ⟨l, ls, hls, hl⟩ := h.splitLines
  obtain ⟨ps, rest, hlines, hrest⟩ := Text.exists_passages (Text.splitLines a)
  have hfirst : l :: ls = ps.flatMap Passage.lines ++ rest := hls ▸ hlines
  have hsolid : ¬l.all isBlank = true := by simp [hl.not_blank]
  cases ps with
  | nil =>
    have hmem : l ∈ rest := by
      rw [List.flatMap_nil, List.nil_append] at hfirst
      exact hfirst ▸ List.mem_cons_self ..
    exact absurd (hrest l hmem) hsolid
  | cons p ps =>
    rw [List.flatMap_cons, Passage.lines, List.append_assoc, List.append_assoc] at hfirst
    cases hgap : p.gap with
    | nil =>
      rw [hgap] at hfirst
      obtain ⟨rfl, -⟩ := List.cons.inj hfirst
      exact ⟨p, ps, rest, hlines, hrest, hgap, hl⟩
    | cons g gap =>
      rw [hgap] at hfirst
      obtain ⟨rfl, -⟩ := List.cons.inj hfirst
      exact absurd (p.blank l (hgap ▸ List.mem_cons_self ..)) hsolid

/-- Two texts with an empty line between them are collapsed each by itself: the blank lines behind
the first and the empty line are the gap in front of the second. -/
theorem collapse_append (ha : Flush a) (hb : Flush b) :
    collapse (a ++ '\n' :: '\n' :: b) = collapse a ++ '\n' :: '\n' :: collapse b := by
  obtain ⟨p, ps, back, hlinesa, hback, -, -⟩ := ha.exists_passages
  obtain ⟨q, qs, rest, hlinesb, hrest, hgap, hq⟩ := hb.exists_passages
  have hend : ∃ more, Text.splitLines (a ++ ['\n']) = Text.splitLines a ++ more ∧
      ∀ l ∈ more, l.all isBlank = true := by
    rcases splitLines_append_end a with h | h
    · exact ⟨[], by rw [h, List.append_nil], by simp⟩
    · exact ⟨[[]], h, by simp⟩
  obtain ⟨more, hmore, hblank⟩ := hend
  let moved : Passage := { q with
    gap := back ++ more ++ [[]]
    blank := by
      intro l hl
      simp only [List.mem_append, List.mem_singleton] at hl
      rcases hl with (hl | hl) | rfl
      · exact hback l hl
      · exact hblank l hl
      · rfl }
  have hlines : Text.splitLines (a ++ '\n' :: '\n' :: b) =
      ((p :: ps) ++ moved :: qs).flatMap Passage.lines ++ rest := by
    have hempty : Text.splitLines ('\n' :: b) = [] :: Text.splitLines b :=
      splitLines_line unbroken_nil b
    rw [splitLines_append_newline, hmore, hempty, hlinesa, hlinesb]
    simp [Passage.lines, hgap, moved]
  have htidied : tidied ((p :: ps) ++ moved :: qs) =
      tidied (p :: ps) ++ [] :: tidied (q :: qs) := by
    have hline : trim isBlank q.line = trimRight isBlank q.line := by
      rw [trim, hq.trimLeft]
    simp [tidied, Passage.tidied, hline, moved]
  rw [collapse_eq hlines hrest, collapse_eq hlinesa hback, collapse_eq hlinesb hrest, htidied,
    joinLines_append (by simp [tidied]) (by simp), joinLines_cons [] (by simp [tidied]),
    List.nil_append]

/-- A collapsed text is joined from tidy lines, and a flush one is not empty. -/
theorem Flush.collapse (h : Flush a) :
    Tidy (Text.splitLines (collapse a)) ∧ Text.splitLines (collapse a) ≠ [] ∧
      joinLines (Text.splitLines (collapse a)) = collapse a := by
  obtain ⟨p, ps, rest, hlines, hrest, -, -⟩ := h.exists_passages
  have htidy : Tidy (tidied (p :: ps)) := tidy_tidied (unbroken_line hlines)
  have hsplit : Text.splitLines (Text.collapse a) = tidied (p :: ps) := by
    rw [collapse_eq hlines hrest, htidy.splitLines_joinLines]
  rw [hsplit]
  exact ⟨htidy, List.cons_ne_nil _ _, (collapse_eq hlines hrest).symm⟩

/-- An empty line behind a collapsed text parts its lines from those that follow. -/
theorem splitLines_collapse_gap (h : Flush a) (b : List Char) :
    Text.splitLines (collapse a ++ '\n' :: '\n' :: b) =
      Text.splitLines (collapse a) ++ [] :: Text.splitLines b := by
  obtain ⟨htidy, hne, hjoin⟩ := h.collapse
  have hend : collapse a ++ ['\n'] = endLines (Text.splitLines (collapse a)) := by
    rw [← joinLines_end hne, hjoin]
  calc Text.splitLines (collapse a ++ '\n' :: '\n' :: b)
      = Text.splitLines (endLines (Text.splitLines (collapse a)) ++ '\n' :: b) := by
        rw [← hend, List.append_assoc, List.singleton_append]
    _ = Text.splitLines (collapse a) ++ [] :: Text.splitLines b := by
        rw [splitLines_endLines htidy.unbroken]
        exact congrArg _ (splitLines_line unbroken_nil b)

end Flush
end Text

section Parts
variable {t : String} {ts : List String}

theorem toList_intercalate_gap (t : String) (h : ts ≠ []) :
    ("\n\n".intercalate (t :: ts)).toList =
      t.toList ++ '\n' :: '\n' :: ("\n\n".intercalate ts).toList := by
  rw [String.intercalate_cons_of_ne_nil h, String.toList_append, String.toList_append,
    List.append_assoc]
  rfl

theorem flush_intercalate (h : ∀ t ∈ ts, Text.Flush t.toList) (hne : ts ≠ []) :
    Text.Flush ("\n\n".intercalate ts).toList := by
  cases ts with
  | nil => exact absurd rfl hne
  | cons t ts =>
    have ht : Text.Flush t.toList := h t (List.mem_cons_self ..)
    cases ts with
    | nil => exact ht
    | cons u us =>
      rw [toList_intercalate_gap t (List.cons_ne_nil u us)]
      exact ht.append _

/-- Flush texts with an empty line between two of them are collapsed each by itself. -/
theorem collapseBlankLines_intercalate (h : ∀ t ∈ ts, Text.Flush t.toList) :
    collapseBlankLines ("\n\n".intercalate ts) =
      "\n\n".intercalate (ts.map collapseBlankLines) := by
  induction ts with
  | nil => rfl
  | cons t ts ih =>
    obtain ⟨ht, hts⟩ := List.forall_mem_cons.mp h
    by_cases hne : ts = []
    · subst hne
      rfl
    · apply String.toList_injective
      rw [toList_collapseBlankLines, toList_intercalate_gap t hne,
        Text.collapse_append ht (flush_intercalate hts hne), List.map_cons,
        toList_intercalate_gap _ (by simpa using hne), toList_collapseBlankLines, ← ih hts,
        toList_collapseBlankLines]

/-- The lines of the whole are the lines of the parts, with an empty line between two parts. -/
theorem splitLines_intercalate (h : ∀ t ∈ ts, Text.Flush t.toList) :
    Text.splitLines ("\n\n".intercalate (ts.map collapseBlankLines)).toList =
      [[]].intercalate (ts.map fun t => Text.splitLines (collapseBlankLines t).toList) := by
  induction ts with
  | nil => rfl
  | cons t ts ih =>
    obtain ⟨ht, hts⟩ := List.forall_mem_cons.mp h
    by_cases hne : ts = []
    · subst hne
      simp
    · rw [List.map_cons, toList_intercalate_gap _ (by simpa using hne), List.map_cons,
        List.intercalate_cons_of_ne_nil (by simpa using hne), toList_collapseBlankLines,
        Text.splitLines_collapse_gap ht, ih hts, List.append_assoc, List.singleton_append]

end Parts

end GraphSchema
