import GraphSchema.Proofs.Text.Lines
import GraphSchema.Schema.Document
import Mathlib.Data.List.Chain

/-! Runs of empty lines squeezed into one, and the lines that collapsing leaves as they are. -/
namespace GraphSchema.Text

section Squeezing
variable {l : List Char} {ls ms : List (List Char)}

theorem squeeze_cons (h : l ≠ []) (ls : List (List Char)) :
    squeeze (l :: ls) = l :: squeeze ls := by
  cases ls with
  | nil => rfl
  | cons m ms => simp [squeeze, h]

theorem squeeze_append_singleton (h : l ≠ []) (ls : List (List Char)) :
    squeeze (ls ++ [l]) = squeeze ls ++ [l] := by
  induction ls using squeeze.induct with
  | case1 => rfl
  | case2 m => simp [squeeze, h]
  | case3 m n ls hempty ih =>
    simp only [List.cons_append, squeeze, hempty, ↓reduceIte] at ih ⊢
    exact ih
  | case4 m n ls hempty ih =>
    simp only [List.cons_append, squeeze, hempty] at ih ⊢
    exact congrArg (m :: ·) ih

theorem mem_squeeze (hl : l ≠ []) : l ∈ squeeze ls ↔ l ∈ ls := by
  induction ls using squeeze.induct with
  | case1 => rfl
  | case2 m => rfl
  | case3 m n ls hempty ih =>
    have hm : m = [] := List.isEmpty_iff.mp (Bool.and_eq_true_iff.mp hempty).1
    rw [squeeze, if_pos hempty, ih]
    simp [hm, hl]
  | case4 m n ls hempty ih =>
    rw [squeeze, if_neg hempty, List.mem_cons, ih, List.mem_cons (b := m)]

theorem mem_of_mem_squeeze (h : l ∈ squeeze ls) : l ∈ ls := by
  induction ls using squeeze.induct with
  | case1 => exact h
  | case2 m => exact h
  | case3 m n ls hempty ih =>
    rw [squeeze, if_pos hempty] at h
    exact List.mem_cons_of_mem _ (ih h)
  | case4 m n ls hempty ih =>
    rw [squeeze, if_neg hempty] at h
    rcases List.mem_cons.mp h with rfl | h
    · exact List.mem_cons_self ..
    · exact List.mem_cons_of_mem _ (ih h)

/-- Of two lines in a row at most one is empty. -/
def Tight (ls : List (List Char)) : Prop := ls.IsChain fun l m => l ≠ [] ∨ m ≠ []

theorem Tight.cons (hl : l ≠ []) (h : Tight ls) : Tight (l :: ls) := by
  cases ls with
  | nil => exact List.isChain_singleton l
  | cons m ms => exact List.isChain_cons_cons.mpr ⟨Or.inl hl, h⟩

theorem Tight.append (hl : ∀ l ∈ ls, l ≠ []) (h : Tight ms) : Tight (ls ++ ms) := by
  induction ls with
  | nil => exact h
  | cons l ls ih =>
    obtain ⟨hl, hls⟩ := List.forall_mem_cons.mp hl
    exact (ih hls).cons hl

theorem Tight.concat (h : Tight ls) (hl : l ≠ []) : Tight (ls ++ [l]) := by
  refine List.isChain_append.mpr ⟨h, List.isChain_singleton l, fun _ _ m hm => Or.inr ?_⟩
  obtain rfl : l = m := Option.some.inj hm
  exact hl

theorem squeeze_eq_self (h : Tight ls) : squeeze ls = ls := by
  induction ls using squeeze.induct with
  | case1 => rfl
  | case2 m => rfl
  | case3 m n ls hempty _ =>
    have := (List.isChain_cons_cons.mp h).1
    simp_all
  | case4 m n ls hempty ih =>
    rw [squeeze, if_neg hempty, ih (List.isChain_cons_cons.mp h).2]

/-- A second empty line in a row changes nothing. -/
theorem squeeze_doubled (ls ms : List (List Char)) :
    squeeze (ls ++ [] :: [] :: ms) = squeeze (ls ++ [] :: ms) := by
  induction ls using squeeze.induct with
  | case1 => rfl
  | case2 m => simp [squeeze]
  | case3 m n ls hempty ih =>
    simp only [List.cons_append, squeeze, hempty, ↓reduceIte] at ih ⊢
    exact ih
  | case4 m n ls hempty ih =>
    simp only [List.cons_append, squeeze, hempty] at ih ⊢
    exact congrArg (m :: ·) ih

theorem head?_squeeze (ls : List (List Char)) : (squeeze ls).head? = ls.head? := by
  induction ls using squeeze.induct with
  | case1 => rfl
  | case2 m => rfl
  | case3 m n ls hempty ih =>
    obtain ⟨hm, hn⟩ := Bool.and_eq_true_iff.mp hempty
    rw [squeeze, if_pos hempty, ih, List.isEmpty_iff.mp hm, List.isEmpty_iff.mp hn]
    rfl
  | case4 m n ls hempty _ =>
    rw [squeeze, if_neg hempty]
    rfl

theorem tight_squeeze (ls : List (List Char)) : Tight (squeeze ls) := by
  induction ls using squeeze.induct with
  | case1 => exact List.IsChain.nil
  | case2 m => exact List.isChain_singleton m
  | case3 m n ls hempty ih =>
    rw [squeeze, if_pos hempty]
    exact ih
  | case4 m n ls hempty ih =>
    have hhead := head?_squeeze (n :: ls)
    rw [squeeze, if_neg hempty]
    obtain ⟨ms, hms⟩ := List.head?_eq_some_iff.mp hhead
    rw [hms] at ih ⊢
    refine List.isChain_cons_cons.mpr ⟨?_, ih⟩
    simpa [or_iff_not_imp_left] using hempty

/-- Squeezing takes blank lines away and no others. -/
theorem filter_squeeze (ls : List (List Char)) :
    (squeeze ls).filter (fun l => !l.all isBlank) = ls.filter fun l => !l.all isBlank := by
  induction ls using squeeze.induct with
  | case1 => rfl
  | case2 m => rfl
  | case3 m n ls hempty ih =>
    have hm : m = [] := List.isEmpty_iff.mp (Bool.and_eq_true_iff.mp hempty).1
    rw [squeeze, if_pos hempty, ih, hm]
    rfl
  | case4 m n ls hempty ih =>
    rw [squeeze, if_neg hempty, List.filter_cons, ih]
    exact (List.filter_cons (p := fun l : List Char => !l.all isBlank)).symm

end Squeezing

/-- Lines as collapsing leaves them: none breaks or ends in a blank, no two in a row are empty, the
first begins with a character that is not blank, and the last is not empty. -/
structure Tidy (ls : List (List Char)) : Prop where
  unbroken : ∀ l ∈ ls, Unbroken l
  ends : ∀ l ∈ ls, ∀ c ∈ l.getLast?, isBlank c = false
  tight : Tight ls
  first : ∀ l ∈ ls.head?, ∃ c ∈ l.head?, isBlank c = false
  last : ∀ l ∈ ls.getLast?, l ≠ []

namespace Tidy
variable {ls : List (List Char)} (h : Tidy ls)
include h

theorem splitLines_joinLines : splitLines (joinLines ls) = ls := by
  cases ls using List.reverseRecOn with
  | nil => rfl
  | append_singleton ms m =>
    exact Text.splitLines_joinLines (fun l hl => h.unbroken l (List.mem_append_left _ hl))
      (h.unbroken m (by simp)) (h.last m (by simp))

theorem trim_joinLines : trim isBlank (joinLines ls) = joinLines ls := by
  have hleft : trimLeft isBlank (joinLines ls) = joinLines ls := by
    cases ls with
    | nil => rfl
    | cons l ls =>
      obtain ⟨c, hc, hblank⟩ := h.first l rfl
      obtain ⟨cs, rfl⟩ := List.head?_eq_some_iff.mp hc
      obtain ⟨rest, hrest⟩ := exists_joinLines_cons ls
      rw [hrest]
      exact List.dropWhile_cons_of_neg (by simp [hblank])
  rw [trim, hleft]
  cases ls using List.reverseRecOn with
  | nil => rfl
  | append_singleton ms m =>
    apply trimRight_eq_self
    rw [joinLines_append_singleton, List.getLast?_append_of_ne_nil _ (h.last m (by simp))]
    exact h.ends m (by simp)

/-- Tidy lines are the normal form of collapsing. -/
theorem collapse_joinLines : collapse (joinLines ls) = joinLines ls := by
  have htrimmed : ls.map (trimRight isBlank) = ls := by
    rw [List.map_congr_left fun l hl => trimRight_eq_self (h.ends l hl), List.map_id']
  rw [collapse, h.splitLines_joinLines, htrimmed, squeeze_eq_self h.tight, h.trim_joinLines]

/-- Two empty lines in a row would be read between three line feeds in a row. -/
theorem not_infix : ¬['\n', '\n', '\n'] <:+: joinLines ls := by
  rintro ⟨before, after, hwhole⟩
  have hlines : splitLines (before ++ '\n' :: '\n' :: '\n' :: after) =
      splitLines (before ++ ['\n']) ++ [] :: [] :: splitLines after := by
    have hempty (cs : List Char) : splitLines ('\n' :: cs) = [] :: splitLines cs :=
      splitLines_line unbroken_nil cs
    rw [splitLines_append_newline, hempty, hempty]
  have hsame : before ++ '\n' :: '\n' :: '\n' :: after = joinLines ls := by
    rw [← hwhole]
    simp
  have htight := h.tight
  rw [← h.splitLines_joinLines, ← hsame, hlines] at htight
  obtain ⟨-, hpair, -⟩ := List.isChain_append.mp htight
  have hnone := (List.isChain_cons_cons.mp hpair).1
  simp at hnone

end Tidy

/-- The lines of a collapsed text, where the first begins with a character that is not blank and
the last is not blank. -/
theorem splitLines_collapse {cs : List Char} {c : Char} {l m : List Char}
    {ls : List (List Char)} (hc : isBlank c = false) (hm : m ≠ [])
    (h : (splitLines cs).map (trimRight isBlank) = (c :: l) :: ls ++ [m]) :
    splitLines (collapse cs) = squeeze ((splitLines cs).map (trimRight isBlank)) := by
  have hmem {k : List Char} (hk : k ∈ squeeze ((splitLines cs).map (trimRight isBlank))) :
      Unbroken k ∧ ∀ e ∈ k.getLast?, isBlank e = false := by
    obtain ⟨j, hj, rfl⟩ := List.mem_map.mp (mem_of_mem_squeeze hk)
    exact ⟨(unbroken_of_mem_splitLines hj).trimRight, fun e he => trimRight_getLast? he⟩
  have htidy : Tidy (squeeze ((splitLines cs).map (trimRight isBlank))) := by
    refine ⟨fun k hk => (hmem hk).1, fun k hk => (hmem hk).2, tight_squeeze _, ?_, ?_⟩
    · rw [head?_squeeze, h]
      rintro k hk
      obtain rfl := Option.some.inj hk
      exact ⟨c, rfl, hc⟩
    · rw [h, squeeze_append_singleton hm, List.getLast?_concat]
      rintro k hk
      exact Option.some.inj hk ▸ hm
  rw [collapse, htidy.trim_joinLines, htidy.splitLines_joinLines]

section Characters
variable {c : Char} {cs : List Char} {ls : List (List Char)}

theorem mem_joinLines_iff (hc : c ≠ '\n') : c ∈ joinLines ls ↔ ∃ l ∈ ls, c ∈ l := by
  induction ls using joinLines.induct with
  | case1 => simp [joinLines]
  | case2 l => simp [joinLines]
  | case3 l m ls ih => simp [joinLines, hc, ih]

theorem mem_splitLines_iff (hc : isLineBreak c = false) :
    (∃ l ∈ splitLines cs, c ∈ l) ↔ c ∈ cs := by
  have hne {d : Char} (hd : isLineBreak d = true) : c ≠ d := by
    rintro rfl
    simp [hc] at hd
  induction cs using splitLines.induct with
  | case1 => simp [splitLines]
  | case2 cs ih => simp [splitLines, ih, hne (d := '\r') (by decide), hne (d := '\n') (by decide)]
  | case3 d cs hcrlf hd ih =>
    rw [splitLines, if_pos hd]
    · simp [ih, hne hd]
    · exact hcrlf
  | case4 d cs _ hd hnil ih =>
    rw [splitLines_cons (Bool.eq_false_iff.mpr hd), hnil]
    rw [hnil] at ih
    simp only [List.mem_cons, ← ih]
    simp
  | case5 d cs _ hd l ls hls ih =>
    rw [splitLines_cons (Bool.eq_false_iff.mpr hd), hls]
    rw [hls] at ih
    simp only [List.mem_cons (b := d), ← ih]
    simp [or_assoc]

theorem mem_trimRight_iff {drop : Char → Bool} (hc : drop c = false) :
    c ∈ trimRight drop cs ↔ c ∈ cs := by
  induction cs with
  | nil => rfl
  | cons d cs ih =>
    rw [List.mem_cons, ← ih, trimRight]
    split
    next hnil =>
      split
      next hd =>
        have hne : c ≠ d := by
          rintro rfl
          simp [hc] at hd
        simp [hnil, hne]
      next => simp [hnil]
    next hcons => rw [hcons, List.mem_cons]

theorem mem_trim_iff {drop : Char → Bool} (hc : drop c = false) : c ∈ trim drop cs ↔ c ∈ cs := by
  rw [trim, mem_trimRight_iff hc, trimLeft]
  constructor
  · exact fun h => (List.dropWhile_sublist _).subset h
  · intro h
    rw [← List.takeWhile_append_dropWhile (p := drop) (l := cs), List.mem_append] at h
    refine h.resolve_left fun htake => ?_
    simp [List.mem_takeWhile_imp htake] at hc

/-- Collapsing neither adds nor loses a character that is not blank. -/
theorem mem_collapse_iff (hc : isBlank c = false) : c ∈ collapse cs ↔ c ∈ cs := by
  have hfeed : c ≠ '\n' := by
    rintro rfl
    exact absurd hc (by decide)
  have hlines : (∃ l ∈ (splitLines cs).map (trimRight isBlank), c ∈ l) ↔ c ∈ cs := by
    simp only [List.mem_map, exists_exists_and_eq_and, mem_trimRight_iff hc]
    exact mem_splitLines_iff (not_break_of_not_blank hc)
  rw [collapse, mem_trim_iff hc, mem_joinLines_iff hfeed, ← hlines]
  constructor
  · rintro ⟨l, hl, hcl⟩
    exact ⟨l, (mem_squeeze (List.ne_nil_of_mem hcl)).mp hl, hcl⟩
  · rintro ⟨l, hl, hcl⟩
    exact ⟨l, (mem_squeeze (List.ne_nil_of_mem hcl)).mpr hl, hcl⟩

end Characters
end GraphSchema.Text
