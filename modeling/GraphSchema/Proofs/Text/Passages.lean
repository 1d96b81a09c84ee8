import GraphSchema.Proofs.Text.Collapse

/-! What collapsing leaves of a text. The lines of a text are passages, each a line that is not blank
with the blank lines in front of it; collapsing keeps the line of each passage and makes every gap
one empty line. -/
namespace GraphSchema.Text

/-- A line that is not blank, with the blank lines in front of it. -/
structure Passage where
  gap : List (List Char)
  line : List Char
  blank : ∀ l ∈ gap, l.all isBlank = true
  solid : line.all isBlank = false

namespace Passage

def lines (p : Passage) : List (List Char) := p.gap ++ [p.line]

/-- A gap shrinks to one empty line. -/
def tidied (p : Passage) : List (List Char) :=
  (if p.gap.isEmpty then [] else [[]]) ++ [trimRight isBlank p.line]

end Passage

/-- Of the first passage only the line is left, and that line is trimmed at both ends. -/
def tidied : List Passage → List (List Char)
  | [] => []
  | p :: ps => trim isBlank p.line :: ps.flatMap Passage.tidied

/-- Lines are passages with blank lines behind the last. -/
theorem exists_passages (ls : List (List Char)) :
    ∃ (ps : List Passage) (rest : List (List Char)),
      ls = ps.flatMap Passage.lines ++ rest ∧ ∀ l ∈ rest, l.all isBlank = true := by
  induction ls with
  | nil => exact ⟨[], [], rfl, fun _ hl => absurd hl List.not_mem_nil⟩
  | cons l ls ih =>
    obtain ⟨ps, rest, rfl, hrest⟩ := ih
    by_cases hl : l.all isBlank = true
    · cases ps with
      | nil => exact ⟨[], l :: rest, rfl, List.forall_mem_cons.mpr ⟨hl, hrest⟩⟩
      | cons p ps =>
        let q : Passage := { p with
          gap := l :: p.gap
          blank := List.forall_mem_cons.mpr ⟨hl, p.blank⟩ }
        exact ⟨q :: ps, rest, rfl, hrest⟩
    · let p : Passage := ⟨[], l, fun _ hm => absurd hm List.not_mem_nil, Bool.eq_false_iff.mpr hl⟩
      exact ⟨p :: ps, rest, rfl, hrest⟩

section Passages
variable {p : Passage} {ps : List Passage} {rest : List (List Char)}

theorem Passage.exists_solid (p : Passage) : ∃ c ∈ p.line, isBlank c = false :=
  all_blank_eq_false.mp p.solid

theorem Passage.trimRight_line_ne_nil (p : Passage) : trimRight isBlank p.line ≠ [] :=
  trimRight_ne_nil p.exists_solid

theorem squeeze_gap {gap ls : List (List Char)} (hgap : ∀ l ∈ gap, l.all isBlank = true)
    (hls : ls.head? ≠ some []) :
    squeeze (gap.map (trimRight isBlank) ++ ls) =
      (if gap.isEmpty then [] else [[]]) ++ squeeze ls := by
  induction gap with
  | nil => rfl
  | cons l gap ih =>
    obtain ⟨hl, hrest⟩ := List.forall_mem_cons.mp hgap
    have hnil : trimRight isBlank l = [] := trimRight_of_drop (List.all_eq_true.mp hl)
    cases gap with
    | nil =>
      cases ls with
      | nil => simp [hnil, squeeze]
      | cons m ms =>
        have hm : m ≠ [] := by simpa using hls
        simp [hnil, squeeze, hm]
    | cons k gap =>
      have hk : trimRight isBlank k = [] :=
        trimRight_of_drop (List.all_eq_true.mp (hrest k (List.mem_cons_self ..)))
      have htail := ih hrest
      simp only [List.map_cons, List.cons_append, hnil, hk] at htail ⊢
      exact (squeeze_doubled [] _).trans htail

/-- Squeezing works on each passage by itself. -/
theorem squeeze_passages (hrest : ∀ l ∈ rest, l.all isBlank = true) :
    squeeze ((ps.flatMap Passage.lines ++ rest).map (trimRight isBlank)) =
      ps.flatMap Passage.tidied ++ if rest.isEmpty then [] else [[]] := by
  induction ps with
  | nil =>
    have hgap : squeeze (rest.map (trimRight isBlank) ++ []) = _ := squeeze_gap hrest (by simp)
    simpa [squeeze] using hgap
  | cons p ps ih =>
    have hline := p.trimRight_line_ne_nil
    rw [List.flatMap_cons, List.append_assoc, List.map_append, Passage.lines, List.map_append,
      List.append_assoc, squeeze_gap p.blank (by simpa using hline), List.map_singleton,
      List.singleton_append, squeeze_cons hline, ih, List.flatMap_cons, Passage.tidied]
    simp only [List.append_assoc, List.cons_append, List.nil_append]

theorem tight_flatMap_tidied (ps : List Passage) : Tight (ps.flatMap Passage.tidied) := by
  induction ps with
  | nil => exact List.IsChain.nil
  | cons p ps ih =>
    have hline := ih.cons p.trimRight_line_ne_nil
    rw [List.flatMap_cons, Passage.tidied]
    split
    next => exact hline
    next => exact List.isChain_cons_cons.mpr ⟨.inr p.trimRight_line_ne_nil, hline⟩

theorem getLast_flatMap_tidied (ps : List Passage) :
    ∀ l ∈ (ps.flatMap Passage.tidied).getLast?, l ≠ [] := by
  induction ps with
  | nil => simp
  | cons p ps ih =>
    intro l hl
    rw [List.flatMap_cons, List.getLast?_append] at hl
    rcases Option.or_eq_some_iff.mp hl with hl | ⟨-, hl⟩
    · exact ih l hl
    · rw [Passage.tidied, List.getLast?_concat] at hl
      exact Option.some.inj hl ▸ p.trimRight_line_ne_nil

theorem mem_tidied {l : List Char} (hl : l ∈ ps.flatMap Passage.tidied) :
    l = [] ∨ ∃ p ∈ ps, l = trimRight isBlank p.line := by
  obtain ⟨p, hp, hl⟩ := List.mem_flatMap.mp hl
  rcases List.mem_append.mp hl with hl | hl
  · split at hl
    next => exact absurd hl List.not_mem_nil
    next => exact .inl (List.mem_singleton.mp hl)
  · exact .inr ⟨p, hp, List.mem_singleton.mp hl⟩

theorem tidy_tidied (h : ∀ p ∈ ps, Unbroken p.line) : Tidy (tidied ps) := by
  cases ps with
  | nil =>
    have hnone {P : List Char → Prop} : ∀ l ∈ ([] : List (List Char)), P l :=
      fun _ hl => absurd hl List.not_mem_nil
    exact ⟨hnone, hnone, List.IsChain.nil, by simp [tidied], by simp [tidied]⟩
  | cons p ps =>
    obtain ⟨hp, hps⟩ := List.forall_mem_cons.mp h
    have hfirst : ∃ c ∈ (trim isBlank p.line).head?, isBlank c = false :=
      exists_head?_trim p.exists_solid
    have hne : trim isBlank p.line ≠ [] := by
      rintro hnil
      simp [hnil] at hfirst
    have hdropped : Unbroken (trimLeft isBlank p.line) :=
      fun c hc => hp c ((List.dropWhile_sublist isBlank).subset hc)
    constructor
    case unbroken =>
      refine List.forall_mem_cons.mpr ⟨hdropped.trimRight, fun l hl => ?_⟩
      rcases mem_tidied hl with rfl | ⟨q, hq, rfl⟩
      · exact unbroken_nil
      · exact (hps q hq).trimRight
    case ends =>
      refine List.forall_mem_cons.mpr ⟨fun c hc => trimRight_getLast? hc, fun l hl => ?_⟩
      rcases mem_tidied hl with rfl | ⟨q, hq, rfl⟩
      · simp
      · exact fun c hc => trimRight_getLast? hc
    case tight => exact (tight_flatMap_tidied ps).cons hne
    case first =>
      rintro l hl
      obtain rfl := Option.some.inj hl
      exact hfirst
    case last =>
      intro l hl
      rw [tidied, List.getLast?_cons] at hl
      obtain rfl := Option.some.inj hl
      cases hlast : (ps.flatMap Passage.tidied).getLast? with
      | none => exact hne
      | some k => exact getLast_flatMap_tidied ps k hlast

theorem trim_joinLines_mark {ls : List (List Char)} (hls : ls ≠ []) (front back : Bool) :
    trim isBlank (joinLines ((if front then [] else [[]]) ++ ls ++ if back then [] else [[]])) =
      trim isBlank (joinLines ls) := by
  have hfeed : isBlank '\n' = true := by decide
  have hback (ms : List (List Char)) (hms : ms ≠ []) :
      trim isBlank (joinLines (ms ++ if back then [] else [[]])) = trim isBlank (joinLines ms) := by
    cases back with
    | true => exact congrArg (trim isBlank <| joinLines ·) (List.append_nil ms)
    | false => exact (congrArg _ (joinLines_append hms (by simp))).trans (trim_append_drop hfeed _)
  rw [hback _ (by simp [hls])]
  cases front with
  | true => rfl
  | false => exact (congrArg _ (joinLines_cons [] hls)).trans (trim_cons_drop hfeed _)

theorem unbroken_line {cs : List Char} (hcs : splitLines cs = ps.flatMap Passage.lines ++ rest) :
    ∀ p ∈ ps, Unbroken p.line := by
  intro p hp
  have hmem : p.line ∈ splitLines cs := by
    rw [hcs]
    exact List.mem_append_left _ (List.mem_flatMap.mpr ⟨p, hp, by simp [Passage.lines]⟩)
  exact unbroken_of_mem_splitLines hmem

theorem collapse_eq {cs : List Char} (hcs : splitLines cs = ps.flatMap Passage.lines ++ rest)
    (hrest : ∀ l ∈ rest, l.all isBlank = true) : collapse cs = joinLines (tidied ps) := by
  have htidy : Tidy (tidied ps) := tidy_tidied (unbroken_line hcs)
  rw [collapse, hcs, squeeze_passages hrest]
  cases ps with
  | nil => cases rest <;> rfl
  | cons p ps =>
    obtain ⟨after, hafter⟩ := exists_joinLines_cons (ps.flatMap Passage.tidied)
    have hsolid : ∃ c ∈ trimRight isBlank p.line, isBlank c = false :=
      all_blank_eq_false.mp ((trimRight_all_blank p.line).trans p.solid)
    calc trim isBlank (joinLines ((p :: ps).flatMap Passage.tidied ++
            if rest.isEmpty then [] else [[]]))
        = trim isBlank (joinLines (trimRight isBlank p.line :: ps.flatMap Passage.tidied)) := by
          rw [List.flatMap_cons, Passage.tidied, List.append_assoc _ [_], List.singleton_append]
          exact trim_joinLines_mark (List.cons_ne_nil _ _) _ _
      _ = trim isBlank (trimLeft isBlank (trimRight isBlank p.line) ++ after) := by
          rw [hafter, ← trim_trimLeft, trimLeft_append hsolid]
      _ = trim isBlank (joinLines (tidied (p :: ps))) := by rw [trimLeft_trimRight, tidied, hafter]
      _ = joinLines (tidied (p :: ps)) := htidy.trim_joinLines

theorem solidLines_passages {cs : List Char}
    (hcs : splitLines cs = ps.flatMap Passage.lines ++ rest)
    (hrest : ∀ l ∈ rest, l.all isBlank = true) : solidLines cs = ps.map Passage.line := by
  have hnone {ls : List (List Char)} (hls : ∀ l ∈ ls, l.all isBlank = true) :
      ls.filter (fun l => !l.all isBlank) = [] :=
    List.filter_eq_nil_iff.mpr fun l hl => by simp [hls l hl]
  rw [solidLines, hcs, List.filter_append, hnone hrest, List.append_nil, List.filter_flatMap,
    List.map_eq_flatMap]
  refine List.flatMap_congr fun p _ => ?_
  rw [Passage.lines, List.filter_append, hnone p.blank, List.nil_append]
  exact List.filter_cons_of_pos (by simp [p.solid])

theorem filter_tidied (ps : List Passage) :
    (tidied ps).filter (fun l => !l.all isBlank) =
      ((ps.map Passage.line).map (trimRight isBlank)).modifyHead (trimLeft isBlank) := by
  have hlines (ps : List Passage) : (ps.flatMap Passage.tidied).filter (fun l => !l.all isBlank) =
      (ps.map Passage.line).map (trimRight isBlank) := by
    rw [List.filter_flatMap, List.map_map, List.map_eq_flatMap]
    refine List.flatMap_congr fun p _ => ?_
    have hline : (!(trimRight isBlank p.line).all isBlank) = true := by
      rw [trimRight_all_blank, p.solid]
      rfl
    unfold Passage.tidied
    split <;> simp [hline]
  cases ps with
  | nil => rfl
  | cons p ps =>
    obtain ⟨c, hc, hblank⟩ := exists_head?_trim p.exists_solid
    have hsolid : (trim isBlank p.line).all isBlank = false :=
      all_blank_eq_false.mpr ⟨c, List.mem_of_mem_head? hc, hblank⟩
    have hfirst : (!(trim isBlank p.line).all isBlank) = true := by rw [hsolid]; rfl
    rw [tidied, List.filter_cons, if_pos hfirst, hlines, ← trimLeft_trimRight]
    rfl

end Passages
end GraphSchema.Text

namespace GraphSchema
open Text

theorem toList_collapseBlankLines (text : String) :
    (collapseBlankLines text).toList = collapse text.toList := String.toList_ofList

/-- The lines of a collapsed text are the lines that are not blank, in order and trimmed at the right
end, the first at both ends. Between two of them stands one empty line if blank lines stood there,
and nothing else; nothing stands in front of the first or behind the last. So line feeds are the only
breaks, no line ends in a blank, there are no three line feeds in a row, and what is collapsed
already does not change. -/
theorem collapseBlankLines_exact (text : String) :
    ∃ (ps : List Passage) (rest : List (List Char)),
      splitLines text.toList = ps.flatMap Passage.lines ++ rest ∧
      (∀ l ∈ rest, l.all isBlank = true) ∧
      let o := (collapseBlankLines text).toList
      o = joinLines (tidied ps) ∧ splitLines o = tidied ps ∧
      solidLines o =
        ((solidLines text.toList).map (trimRight isBlank)).modifyHead (trimLeft isBlank) ∧
      (∀ c ∈ o, isLineBreak c = true → c = '\n') ∧
      (∀ l ∈ splitLines o, ∀ c ∈ l.getLast?, isBlank c = false) ∧
      ¬['\n', '\n', '\n'] <:+: o ∧
      collapseBlankLines (collapseBlankLines text) = collapseBlankLines text := by
  obtain ⟨ps, rest, hlines, hrest⟩ := exists_passages (splitLines text.toList)
  have htidy : Tidy (tidied ps) := tidy_tidied (unbroken_line hlines)
  refine ⟨ps, rest, hlines, hrest, ?_⟩
  intro o
  have ho : o = joinLines (tidied ps) :=
    (toList_collapseBlankLines text).trans (collapse_eq hlines hrest)
  have hsplit : splitLines o = tidied ps := ho ▸ htidy.splitLines_joinLines
  refine ⟨ho, hsplit, ?_, ?_, ?_, ?_, ?_⟩
  · rw [solidLines, hsplit, filter_tidied, solidLines_passages hlines hrest]
  · intro c hc hbreak
    rw [ho] at hc
    rcases eq_or_mem_of_mem_joinLines hc with hfeed | ⟨l, hl, hmem⟩
    · exact hfeed
    · simp [htidy.unbroken l hl c hmem] at hbreak
  · rw [hsplit]
    exact htidy.ends
  · rw [ho]
    exact htidy.not_infix
  · have hsame : collapse o = o := by rw [ho, htidy.collapse_joinLines]
    exact String.toList_injective ((toList_collapseBlankLines _).trans hsame)

end GraphSchema
