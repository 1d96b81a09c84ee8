import GraphSchema.Proofs.Text.Words
import Mathlib.Data.List.Basic

/-! Names made from labels hold no blank, and only a blank label has an empty one: no case mapping
gives a blank or nothing. -/
namespace GraphSchema.Text

/-- The code points of the blanks. -/
def blankRanges : List (Nat × Nat) := [
  (9, 13), (28, 32), (0x85, 0x85), (0xa0, 0xa0), (0x1680, 0x1680), (0x2000, 0x200a),
  (0x2028, 0x2029), (0x202f, 0x202f), (0x205f, 0x205f), (0x3000, 0x3000)]

theorem isBlank_eq_inRanges (c : Char) : isBlank c = inRanges blankRanges c.toNat := by
  rw [Bool.eq_iff_iff, inRanges_iff]
  simp only [isBlank, blankRanges, Bool.or_eq_true, Bool.and_eq_true, decide_eq_true_eq,
    beq_iff_eq, List.exists_mem_cons_iff, List.not_mem_nil, false_and, exists_false, or_false]
  omega

section Mapping
variable {expansions : List (Nat × List Nat)} {runs : List CaseRun} {ranges : List (Nat × Nat)}
  {c d : Char} {cs : List Char}

/-- A run maps into the interval that begins with its image and is as long as the run. -/
theorem mapThrough_bounds {n m : Nat} (h : mapThrough runs n = some m) :
    ∃ r ∈ runs, r.image ≤ m ∧ m ≤ r.image + (r.last - r.first) := by
  obtain ⟨r, hr, rfl⟩ := Option.map_eq_some_iff.mp h
  have hin : r.contains n = true := List.find?_some (p := fun r : CaseRun => r.contains n) hr
  simp only [CaseRun.contains, Bool.and_eq_true, decide_eq_true_eq] at hin
  exact ⟨r, List.mem_of_find?_eq_some hr, by omega, by omega⟩

theorem mem_mapChar (hd : d ∈ mapChar expansions runs c) :
    (∃ e ∈ expansions, ∃ n ∈ e.2, d = Char.ofNat n) ∨
      (∃ n, mapThrough runs c.toNat = some n ∧ d = Char.ofNat n) ∨
        mapThrough runs c.toNat = none ∧ d = c := by
  unfold mapChar at hd
  split at hd
  next ns hns =>
    obtain ⟨before, after, rfl, -⟩ := List.lookup_eq_some_iff.mp hns
    obtain ⟨n, hn, rfl⟩ := List.mem_map.mp hd
    exact .inl ⟨(c.toNat, ns), by simp, n, hn, rfl⟩
  next =>
    split at hd
    next n hn => exact .inr (.inl ⟨n, hn, List.mem_singleton.mp hd⟩)
    next hn => exact .inr (.inr ⟨hn, List.mem_singleton.mp hd⟩)

theorem mapChar_ne_nil (h : ∀ e ∈ expansions, e.2 ≠ []) : mapChar expansions runs c ≠ [] := by
  unfold mapChar
  split
  next ns hns =>
    obtain ⟨before, after, rfl, -⟩ := List.lookup_eq_some_iff.mp hns
    simpa using h (c.toNat, ns) (by simp)
  next => split <;> simp

/-- The images of a run keep clear of ranges of code points. -/
def CaseRun.avoids (ranges : List (Nat × Nat)) (r : CaseRun) : Bool :=
  ranges.all fun b => r.image + (r.last - r.first) < b.1 || b.2 < r.image

/-- No image of a mapping lies in the ranges. -/
def avoids (expansions : List (Nat × List Nat)) (runs : List CaseRun)
    (ranges : List (Nat × Nat)) : Bool :=
  (expansions.all fun e => e.2.all fun n => !inRanges ranges n) && runs.all (·.avoids ranges)

theorem not_inRanges_ofNat {n : Nat} (hzero : inRanges ranges 0 = false)
    (hn : inRanges ranges n = false) : inRanges ranges (Char.ofNat n).toNat = false := by
  by_cases hvalid : n.isValidChar
  · rw [Char.ofNat, dif_pos hvalid]
    exact hn
  · rw [Char.ofNat, dif_neg hvalid]
    exact hzero

theorem not_inRanges_of_mapThrough {n m : Nat} (hruns : runs.all (·.avoids ranges) = true)
    (h : mapThrough runs n = some m) : inRanges ranges m = false := by
  obtain ⟨r, hr, hfirst, hlast⟩ := mapThrough_bounds h
  have hclear := List.all_eq_true.mp hruns r hr
  rw [Bool.eq_false_iff, Ne, inRanges_iff]
  rintro ⟨b, hb, hlow, hhigh⟩
  have hout := List.all_eq_true.mp hclear b hb
  simp only [Bool.or_eq_true, decide_eq_true_eq] at hout
  omega

/-- A mapping does not lead into ranges that it avoids. -/
theorem not_inRanges_of_mem_mapChar (havoids : avoids expansions runs ranges = true)
    (hzero : inRanges ranges 0 = false)
    (hc : mapThrough runs c.toNat = none → inRanges ranges c.toNat = false)
    (hd : d ∈ mapChar expansions runs c) : inRanges ranges d.toNat = false := by
  obtain ⟨hexpansions, hruns⟩ := Bool.and_eq_true_iff.mp havoids
  rcases mem_mapChar hd with ⟨e, he, n, hn, rfl⟩ | ⟨n, hn, rfl⟩ | ⟨hn, rfl⟩
  · have hall := List.all_eq_true.mp (List.all_eq_true.mp hexpansions e he) n hn
    exact not_inRanges_ofNat hzero (by simpa using hall)
  · exact not_inRanges_ofNat hzero (not_inRanges_of_mapThrough hruns hn)
  · exact hc hn

/-- Ranges of code points into which no change of the letter case leads. -/
structure Caseless (ranges : List (Nat × Nat)) : Prop where
  zero : inRanges ranges 0 = false
  upper : avoids upperExpansions upperRuns ranges = true
  lower : avoids lowerExpansions lowerRuns ranges = true
  sigma : inRanges ranges 'σ'.toNat = false
  finalSigma : inRanges ranges 'ς'.toNat = false

namespace Caseless
variable (h : Caseless ranges)
include h

theorem of_mem_upperChar (hc : inRanges ranges c.toNat = false) (hd : d ∈ upperChar c) :
    inRanges ranges d.toNat = false :=
  not_inRanges_of_mem_mapChar h.upper h.zero (fun _ => hc) hd

theorem of_mem_lowerAfter {inWord : Bool} (hcs : ∀ c ∈ cs, inRanges ranges c.toNat = false)
    (hd : d ∈ lowerAfter inWord cs) : inRanges ranges d.toNat = false := by
  induction cs generalizing inWord with
  | nil => exact absurd hd List.not_mem_nil
  | cons c cs ih =>
    obtain ⟨hc, hcs⟩ := List.forall_mem_cons.mp hcs
    rw [lowerAfter] at hd
    split at hd
    next =>
      rcases List.mem_cons.mp hd with rfl | hd
      · split
        next => exact h.finalSigma
        next => exact h.sigma
      · exact ih hcs hd
    next =>
      rcases List.mem_append.mp hd with hd | hd
      · exact not_inRanges_of_mem_mapChar h.lower h.zero (fun _ => hc) hd
      · exact ih hcs hd

end Caseless
end Mapping

theorem caseless_blanks : Caseless blankRanges := by
  constructor <;> decide +kernel

theorem upperChar_ne_nil (c : Char) : upperChar c ≠ [] := mapChar_ne_nil (by decide +kernel)

end GraphSchema.Text

namespace GraphSchema.Label
open Text

/-- A name holds no character of the ranges, if its label holds none but for blanks. -/
theorem not_inRanges_of_mem_normalize {ranges : List (Nat × Nat)} (h : Caseless ranges)
    {cs : List Char} (hcs : ∀ c ∈ cs, isBlank c = false → inRanges ranges c.toNat = false)
    {d : Char} (hd : d ∈ normalize cs) : inRanges ranges d.toNat = false := by
  obtain ⟨w, hw, hd⟩ := List.mem_flatMap.mp hd
  have hword : ∀ c ∈ w, inRanges ranges c.toNat = false := by
    intro c hc
    have hflat : c ∈ (splitWords cs).flatten := List.mem_flatten.mpr ⟨w, hw, hc⟩
    rw [flatten_splitWords] at hflat
    exact hcs c (List.mem_of_mem_filter hflat) ((mem_splitWords hw).2 c hc)
  cases w with
  | nil => exact absurd hd List.not_mem_nil
  | cons c cs =>
    obtain ⟨hc, hcs⟩ := List.forall_mem_cons.mp hword
    rcases List.mem_append.mp hd with hd | hd
    · exact h.of_mem_upperChar hc hd
    · exact h.of_mem_lowerAfter hcs hd

theorem not_blank_of_mem_normalize {cs : List Char} {d : Char} (hd : d ∈ normalize cs) :
    isBlank d = false := by
  rw [isBlank_eq_inRanges]
  exact not_inRanges_of_mem_normalize caseless_blanks
    (fun c _ hblank => isBlank_eq_inRanges c ▸ hblank) hd

theorem normalize_ne_nil {cs : List Char} (h : ∃ c ∈ cs, isBlank c = false) :
    normalize cs ≠ [] := by
  obtain ⟨c, hc, hblank⟩ := h
  have hflat : c ∈ (splitWords cs).flatten := by simp [flatten_splitWords, hc, hblank]
  obtain ⟨w, hw, -⟩ := List.mem_flatten.mp hflat
  obtain ⟨d, ds, rfl⟩ := List.exists_cons_of_ne_nil (mem_splitWords hw).1
  obtain ⟨e, he⟩ := List.exists_mem_of_ne_nil _ (upperChar_ne_nil d)
  exact List.ne_nil_of_mem
    (List.mem_flatMap.mpr ⟨_, hw, List.mem_append_left (lower ds) he⟩)

end GraphSchema.Label

namespace GraphSchema

/-- A text without any blank. -/
def Solid (s : String) : Prop := ∀ c ∈ s.toList, Text.isBlank c = false

instance : DecidablePred Solid :=
  fun s => List.decidableBAll (fun c => Text.isBlank c = false) s.toList

theorem solid_append {s t : String} : Solid (s ++ t) ↔ Solid s ∧ Solid t := by
  unfold Solid
  rw [String.toList_append]
  exact List.forall_mem_append

theorem solid_identifier (label : String) : Solid (Label.identifier label) := by
  intro c hc
  rw [Label.toList_identifier] at hc
  exact Label.not_blank_of_mem_normalize hc

theorem Node.solid_typeName (n : Node) : Solid n.typeName := solid_identifier n.label

theorem Node.typeName_ne_nil {n : Node} (h : ∃ c ∈ n.label.toList, Text.isBlank c = false) :
    n.typeName.toList ≠ [] := by
  rw [Node.typeName, Label.toList_identifier]
  exact Label.normalize_ne_nil h

theorem Node.solid_inputName (n : Node) : Solid n.inputName :=
  solid_append.mpr ⟨n.solid_typeName, by decide⟩

namespace Link
variable (l : Link)

theorem solid_baseName : Solid l.baseName :=
  solid_append.mpr ⟨solid_append.mpr ⟨l.start.solid_typeName, solid_identifier l.edge.label⟩,
    l.finish.solid_typeName⟩

theorem solid_edgeName : Solid l.edgeName :=
  solid_append.mpr ⟨l.solid_baseName, by decide⟩

theorem solid_connectionName : Solid l.connectionName :=
  solid_append.mpr ⟨l.solid_baseName, by decide⟩

end Link
end GraphSchema
