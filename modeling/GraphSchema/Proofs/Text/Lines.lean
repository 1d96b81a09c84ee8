import GraphSchema.Text.Blank
import GraphSchema.Text.Lines
import Mathlib.Data.List.Basic
import Mathlib.Data.List.DropRight

/-! Lines of a text: how splitting meets joining, and what trimming leaves of a line. -/
namespace GraphSchema.Text

/-- No character of the line would end it. -/
def Unbroken (l : List Char) : Prop := ∀ c ∈ l, isLineBreak c = false

instance : DecidablePred Unbroken :=
  fun l => List.decidableBAll (fun c => isLineBreak c = false) l

theorem isBlank_of_isLineBreak {c : Char} (h : isLineBreak c = true) : isBlank c = true := by
  simp only [isLineBreak, isBlank, Bool.or_eq_true, Bool.and_eq_true, decide_eq_true_eq,
    beq_iff_eq] at h ⊢
  omega

@[simp] theorem unbroken_nil : Unbroken [] := fun _ h => absurd h List.not_mem_nil

@[simp] theorem unbroken_cons {c : Char} {l : List Char} :
    Unbroken (c :: l) ↔ isLineBreak c = false ∧ Unbroken l := List.forall_mem_cons

@[simp] theorem unbroken_append {l m : List Char} : Unbroken (l ++ m) ↔ Unbroken l ∧ Unbroken m :=
  List.forall_mem_append

theorem not_break_of_not_blank {c : Char} (h : isBlank c = false) : isLineBreak c = false :=
  Bool.eq_false_iff.mpr fun hb => absurd (isBlank_of_isLineBreak hb) (by simp [h])

theorem unbroken_of_not_blank {l : List Char} (h : ∀ c ∈ l, isBlank c = false) : Unbroken l :=
  fun c hc => not_break_of_not_blank (h c hc)

theorem not_blank_of_range {c a b : Char} (ha : 33 ≤ a.toNat) (hb : b.toNat < 0x85) (hl : a ≤ c)
    (hu : c ≤ b) : isBlank c = false := by
  have hlow : a.toNat ≤ c.toNat := hl
  have hhigh : c.toNat ≤ b.toNat := hu
  rw [Bool.eq_false_iff]
  intro hblank
  simp only [isBlank, Bool.or_eq_true, Bool.and_eq_true, decide_eq_true_eq, beq_iff_eq] at hblank
  omega

theorem not_blank_of_isDigit {c : Char} (h : c.isDigit = true) : isBlank c = false := by
  obtain ⟨hl, hu⟩ := Char.isDigit_iff_toNat.mp h
  exact not_blank_of_range (a := '0') (b := '9') (by decide) (by decide) hl hu

section Splitting
variable {c : Char} {cs l : List Char}

theorem splitLines_cons (h : isLineBreak c = false) :
    splitLines (c :: cs) = match splitLines cs with
      | [] => [[c]]
      | l :: ls => (c :: l) :: ls := by
  rw [splitLines]
  · exact if_neg (by simp [h])
  · intro ds hc _
    rw [hc] at h
    exact absurd h (by decide)

theorem splitLines_cons_break (h : isLineBreak c = true) (hcr : c = '\r' → cs.head? ≠ some '\n') :
    splitLines (c :: cs) = [] :: splitLines cs := by
  rw [splitLines]
  · simp [h]
  · rintro ds rfl rfl
    exact hcr rfl rfl

/-- A line feed after an unbroken line ends that line. -/
theorem splitLines_line (h : Unbroken l) (rest : List Char) :
    splitLines (l ++ '\n' :: rest) = l :: splitLines rest := by
  induction l with
  | nil => exact splitLines_cons_break (by decide) fun h => absurd h (by decide)
  | cons c l ih =>
    obtain ⟨hc, hl⟩ := unbroken_cons.mp h
    rw [List.cons_append, splitLines_cons hc, ih hl]

theorem splitLines_ne_nil (h : cs ≠ []) : splitLines cs ≠ [] := by
  unfold splitLines
  split
  next => exact absurd rfl h
  next => simp
  next =>
    split
    next => simp
    next => split <;> simp

/-- After a line feed splitting starts anew. -/
theorem splitLines_append_newline (cs rest : List Char) :
    splitLines (cs ++ '\n' :: rest) = splitLines (cs ++ ['\n']) ++ splitLines rest := by
  have hcons (c : Char) (cs : List Char) (hc : ¬isLineBreak c = true)
      (ih : splitLines (cs ++ '\n' :: rest) = splitLines (cs ++ ['\n']) ++ splitLines rest) :
      splitLines (c :: cs ++ '\n' :: rest) = splitLines (c :: cs ++ ['\n']) ++ splitLines rest := by
    obtain ⟨l, ls, hls⟩ := List.exists_cons_of_ne_nil
      (splitLines_ne_nil (show cs ++ ['\n'] ≠ [] by simp))
    have hfalse : isLineBreak c = false := Bool.eq_false_iff.mpr hc
    rw [List.cons_append, List.cons_append, splitLines_cons hfalse, splitLines_cons hfalse, ih, hls]
    rfl
  induction cs using splitLines.induct with
  | case1 => exact splitLines_line unbroken_nil rest
  | case2 cs ih =>
    simp only [List.cons_append, splitLines]
    rw [ih]
  | case3 c cs hcrlf hc ih =>
    cases cs with
    | nil =>
      by_cases hr : c = '\r'
      · subst hr
        rfl
      · rw [List.cons_append, List.cons_append, splitLines_cons_break hc fun h => absurd h hr,
          splitLines_cons_break hc fun h => absurd h hr, ih]
        rfl
    | cons d ds =>
      have hd (xs : List Char) : c = '\r' → (d :: xs).head? ≠ some '\n' := by
        intro hr hn
        exact hcrlf ds hr (by rw [Option.some.inj hn])
      calc splitLines (c :: d :: (ds ++ '\n' :: rest))
          = [] :: splitLines (d :: ds ++ '\n' :: rest) := splitLines_cons_break hc (hd _)
        _ = [] :: (splitLines (d :: ds ++ ['\n']) ++ splitLines rest) := by rw [ih]
        _ = splitLines (c :: d :: (ds ++ ['\n'])) ++ splitLines rest := by
          rw [splitLines_cons_break hc (hd _)]
          rfl
  | case4 c cs _ hc _ ih => exact hcons c cs hc ih
  | case5 c cs _ hc _ _ _ ih => exact hcons c cs hc ih

/-- The lines of a text hold no line break. -/
theorem unbroken_of_mem_splitLines (h : l ∈ splitLines cs) : Unbroken l := by
  induction cs using splitLines.induct generalizing l with
  | case1 => simp [splitLines] at h
  | case2 cs ih =>
    rw [splitLines] at h
    rcases List.mem_cons.mp h with rfl | h
    · exact unbroken_nil
    · exact ih h
  | case3 c cs hcrlf hc ih =>
    rw [splitLines, if_pos hc] at h
    · rcases List.mem_cons.mp h with rfl | h
      · exact unbroken_nil
      · exact ih h
    · exact hcrlf
  | case4 c cs _ hc hnil _ =>
    rw [splitLines_cons (Bool.eq_false_iff.mpr hc), hnil, List.mem_singleton] at h
    rw [h, unbroken_cons]
    exact ⟨Bool.eq_false_iff.mpr hc, unbroken_nil⟩
  | case5 c cs _ hc m ms hms ih =>
    rw [splitLines_cons (Bool.eq_false_iff.mpr hc), hms] at h
    rw [hms] at ih
    rcases List.mem_cons.mp h with rfl | h
    · exact unbroken_cons.mpr ⟨Bool.eq_false_iff.mpr hc, ih (List.mem_cons_self ..)⟩
    · exact ih (List.mem_cons_of_mem _ h)

theorem splitLines_append_line {m : List Char} (hm : Unbroken m) (hne : m ≠ []) :
    splitLines (l ++ '\n' :: m) = splitLines (l ++ ['\n']) ++ [m] := by
  rw [splitLines_append_newline, splitLines_of_no_break hne hm]

/-- Two lines are read back if and only if the first holds no break. -/
theorem splitLines_eq_pair_iff {m : List Char} (hm : Unbroken m) (hne : m ≠ []) :
    splitLines (l ++ '\n' :: m) = [l, m] ↔ Unbroken l := by
  constructor
  · intro h
    exact unbroken_of_mem_splitLines (h ▸ List.mem_cons_self ..)
  · intro h
    rw [splitLines_line h, splitLines_of_no_break hne hm]

/-- A line feed at the end opens no line, or an empty one. -/
theorem splitLines_append_end (cs : List Char) :
    splitLines (cs ++ ['\n']) = splitLines cs ∨
      splitLines (cs ++ ['\n']) = splitLines cs ++ [[]] := by
  induction cs using splitLines.induct with
  | case1 => exact .inr rfl
  | case2 cs ih =>
    simp only [List.cons_append, splitLines]
    exact ih.imp (congrArg _) (congrArg _)
  | case3 c cs hcrlf hc ih =>
    cases cs with
    | nil =>
      by_cases hr : c = '\r'
      · subst hr
        exact .inl rfl
      · have hone : splitLines [c] = [[]] := splitLines_cons_break hc fun h => absurd h hr
        rw [List.cons_append, splitLines_cons_break hc fun h => absurd h hr, hone]
        exact .inr rfl
    | cons d ds =>
      have hd (xs : List Char) : c = '\r' → (d :: xs).head? ≠ some '\n' := by
        intro hr hn
        exact hcrlf ds hr (by rw [Option.some.inj hn])
      rw [List.cons_append, List.cons_append, splitLines_cons_break hc (hd _),
        splitLines_cons_break hc (hd _)]
      exact ih.imp (congrArg _) (congrArg _)
  | case4 c cs _ hc hnil _ =>
    have hcs : cs = [] := by
      by_contra hne
      exact splitLines_ne_nil hne hnil
    subst hcs
    left
    rw [List.cons_append, splitLines_cons (Bool.eq_false_iff.mpr hc),
      splitLines_cons (Bool.eq_false_iff.mpr hc)]
    rfl
  | case5 c cs _ hc l ls hls ih =>
    rw [List.cons_append, splitLines_cons (Bool.eq_false_iff.mpr hc),
      splitLines_cons (Bool.eq_false_iff.mpr hc), hls]
    rw [hls] at ih
    rcases ih with ih | ih
    · exact .inl (by rw [ih])
    · exact .inr (by rw [ih]; rfl)

theorem unifyNewlines_of_no_return (h : '\r' ∉ cs) : unifyNewlines cs = cs := by
  induction cs with
  | nil => rfl
  | cons c cs ih =>
    obtain ⟨hc, hcs⟩ := not_or.mp (mt List.mem_cons.mpr h)
    rw [unifyNewlines, ih hcs]
    · exact fun _ hreturn _ => hc hreturn.symm
    · exact fun hreturn => hc hreturn.symm

end Splitting

/-- Lines, each with a line feed behind it. -/
def endLines (ls : List (List Char)) : List Char := ls.flatMap (· ++ ['\n'])

theorem endLines_cons (l : List Char) (ls : List (List Char)) :
    endLines (l :: ls) = l ++ '\n' :: endLines ls := by simp [endLines]

theorem joinLines_append_singleton (ls : List (List Char)) (l : List Char) :
    joinLines (ls ++ [l]) = endLines ls ++ l := by
  induction ls with
  | nil => rfl
  | cons m ms ih =>
    rw [endLines_cons, List.append_assoc, List.cons_append, List.cons_append, ← ih]
    cases ms <;> rfl

theorem joinLines_end {ls : List (List Char)} (h : ls ≠ []) : joinLines ls ++ ['\n'] = endLines ls := by
  cases ls using List.reverseRecOn with
  | nil => exact absurd rfl h
  | append_singleton ms m => simp [joinLines_append_singleton, endLines]

theorem splitLines_endLines {ls : List (List Char)} (h : ∀ l ∈ ls, Unbroken l)
    (rest : List Char) : splitLines (endLines ls ++ rest) = ls ++ splitLines rest := by
  induction ls with
  | nil => rfl
  | cons l ls ih =>
    obtain ⟨hl, hls⟩ := List.forall_mem_cons.mp h
    rw [endLines_cons, List.append_assoc, List.cons_append, splitLines_line hl, ih hls]
    rfl

/-- What each line breaks into, taken together, is what the text breaks into. -/
theorem splitLines_endLines_flatMap (ls : List (List Char)) :
    splitLines (endLines ls) = ls.flatMap fun l => splitLines (l ++ ['\n']) := by
  induction ls with
  | nil => rfl
  | cons l ls ih => rw [endLines_cons, splitLines_append_newline, ih, List.flatMap_cons]

theorem splitLines_joinLines {ls : List (List Char)} {l : List Char}
    (hls : ∀ m ∈ ls, Unbroken m) (hl : Unbroken l) (hne : l ≠ []) :
    splitLines (joinLines (ls ++ [l])) = ls ++ [l] := by
  rw [joinLines_append_singleton, splitLines_endLines hls, splitLines_of_no_break hne hl]

section Joining
variable {c : Char} {l m : List Char} {ls ms : List (List Char)}

theorem joinLines_cons (l : List Char) (h : ls ≠ []) :
    joinLines (l :: ls) = l ++ '\n' :: joinLines ls := by
  cases ls with
  | nil => exact absurd rfl h
  | cons m ms => rfl

theorem joinLines_append (hl : ls ≠ []) (hm : ms ≠ []) :
    joinLines (ls ++ ms) = joinLines ls ++ '\n' :: joinLines ms := by
  induction ls with
  | nil => exact absurd rfl hl
  | cons l ls ih =>
    cases ls with
    | nil => exact joinLines_cons l hm
    | cons k ks =>
      rw [List.cons_append, joinLines_cons l (by simp), ih (by simp), joinLines_cons l (by simp),
        List.append_assoc, List.cons_append]

/-- Lines begin in the first of them, and what follows it is the same for every first line. -/
theorem exists_joinLines_cons (ls : List (List Char)) :
    ∃ rest, ∀ l, joinLines (l :: ls) = l ++ rest := by
  cases ls with
  | nil => exact ⟨[], fun l => (List.append_nil l).symm⟩
  | cons m ms => exact ⟨'\n' :: joinLines (m :: ms), fun _ => rfl⟩

theorem eq_or_mem_of_mem_joinLines (hc : c ∈ joinLines ls) : c = '\n' ∨ ∃ l ∈ ls, c ∈ l := by
  induction ls with
  | nil => exact absurd hc List.not_mem_nil
  | cons l ls ih =>
    cases ls with
    | nil => exact .inr ⟨l, List.mem_cons_self .., hc⟩
    | cons m ms =>
      rw [joinLines_cons l (by simp)] at hc
      rcases List.mem_append.mp hc with hc | hc
      · exact .inr ⟨l, List.mem_cons_self .., hc⟩
      · rcases List.mem_cons.mp hc with hc | hc
        · exact .inl hc
        · exact (ih hc).imp_right fun ⟨k, hk, hc⟩ => ⟨k, List.mem_cons_of_mem _ hk, hc⟩

end Joining

section Trimming
variable {drop : Char → Bool} {c : Char} {cs : List Char}

theorem trimRight_append_singleton (h : drop c = false) (cs : List Char) :
    trimRight drop (cs ++ [c]) = cs ++ [c] := by
  induction cs with
  | nil => simp [trimRight, h]
  | cons d ds ih =>
    obtain ⟨e, es, hes⟩ := List.exists_cons_of_ne_nil (show ds ++ [c] ≠ [] by simp)
    rw [List.cons_append, trimRight, ih, hes]

theorem trimRight_eq_self (h : ∀ c ∈ cs.getLast?, drop c = false) : trimRight drop cs = cs := by
  cases cs using List.reverseRecOn with
  | nil => rfl
  | append_singleton ds c => exact trimRight_append_singleton (h c (by simp)) ds

theorem trim_eq_self (h : ∀ c ∈ cs, drop c = false) : trim drop cs = cs := by
  have hleft : cs.dropWhile drop = cs := by
    cases cs with
    | nil => rfl
    | cons c cs => exact List.dropWhile_cons_of_neg (by simp [h c (List.mem_cons_self ..)])
  rw [trim, trimLeft, hleft]
  exact trimRight_eq_self fun c hc => h c (List.mem_of_getLast? hc)

theorem trimRight_getLast? (h : c ∈ (trimRight drop cs).getLast?) : drop c = false := by
  obtain ⟨ds, hds⟩ := List.getLast?_eq_some_iff.mp h
  exact trimRight_ne_of_drop hds

theorem trimRight_ne_nil (h : ∃ c ∈ cs, drop c = false) : trimRight drop cs ≠ [] := by
  induction cs with
  | nil => simp at h
  | cons d ds ih =>
    rw [trimRight]
    split
    next hnil =>
      have hd : drop d = false := by
        obtain ⟨c, hc, hdrop⟩ := h
        rcases List.mem_cons.mp hc with rfl | hc
        · exact hdrop
        · exact absurd hnil (ih ⟨c, hc, hdrop⟩)
      simp [hd]
    next => simp

theorem trimRight_starts : trimRight drop cs <+: cs := by
  induction cs with
  | nil => exact List.prefix_rfl
  | cons d ds ih =>
    rw [trimRight]
    split
    next =>
      split
      next => exact List.nil_prefix
      next => exact ⟨ds, rfl⟩
    next e es hes => exact List.cons_prefix_cons.mpr ⟨rfl, hes ▸ ih⟩

theorem trim_subset (drop : Char → Bool) (cs : List Char) : trim drop cs ⊆ cs :=
  fun _ hc => (List.dropWhile_sublist drop).subset (trimRight_starts.subset hc)

theorem Unbroken.trimRight (h : Unbroken cs) : Unbroken (trimRight drop cs) :=
  fun c hc => h c (trimRight_starts.subset hc)

theorem trimRight_of_drop (h : ∀ c ∈ cs, drop c = true) : trimRight drop cs = [] := by
  induction cs with
  | nil => rfl
  | cons d ds ih =>
    obtain ⟨hd, hds⟩ := List.forall_mem_cons.mp h
    rw [trimRight, ih hds]
    exact if_pos hd

theorem trimRight_append_drop (h : drop c = true) (cs : List Char) :
    trimRight drop (cs ++ [c]) = trimRight drop cs := by
  induction cs with
  | nil => simp [trimRight, h]
  | cons d ds ih => rw [List.cons_append, trimRight, ih, trimRight]

/-- Which end is trimmed first does not matter. -/
theorem trimLeft_trimRight (drop : Char → Bool) (cs : List Char) :
    trimLeft drop (trimRight drop cs) = trim drop cs := by
  unfold trim trimLeft
  induction cs with
  | nil => rfl
  | cons d ds ih =>
    rw [trimRight]
    by_cases hd : drop d = true
    · rw [List.dropWhile_cons_of_pos hd, ← ih]
      cases trimRight drop ds with
      | nil => simp [hd]
      | cons e es => exact List.dropWhile_cons_of_pos hd
    · rw [List.dropWhile_cons_of_neg hd, trimRight]
      cases trimRight drop ds with
      | nil => simp [hd]
      | cons e es => exact List.dropWhile_cons_of_neg hd

theorem trim_cons_drop (h : drop c = true) (cs : List Char) : trim drop (c :: cs) = trim drop cs := by
  rw [trim, trimLeft, List.dropWhile_cons_of_pos h]
  rfl

theorem trim_append_drop (h : drop c = true) (cs : List Char) :
    trim drop (cs ++ [c]) = trim drop cs := by
  rw [← trimLeft_trimRight, trimRight_append_drop h, trimLeft_trimRight]

theorem trimLeft_idem (drop : Char → Bool) (cs : List Char) :
    trimLeft drop (trimLeft drop cs) = trimLeft drop cs := List.dropWhile_idempotent drop cs

theorem trim_trimLeft (drop : Char → Bool) (cs : List Char) :
    trim drop (trimLeft drop cs) = trim drop cs := by
  rw [trim, trimLeft_idem]
  rfl

theorem trim_trim (drop : Char → Bool) (cs : List Char) :
    trim drop (trim drop cs) = trim drop cs := by
  have hleft : trimLeft drop (trim drop cs) = trim drop cs := by
    rw [← trimLeft_trimRight, trimLeft_idem]
  rw [trim, hleft]
  exact trimRight_idem drop _

theorem exists_head?_trim (h : ∃ c ∈ cs, drop c = false) :
    ∃ c ∈ (trim drop cs).head?, drop c = false := by
  have hne : cs.dropWhile drop ≠ [] := by
    obtain ⟨c, hc, hdrop⟩ := h
    intro hnil
    exact absurd (List.dropWhile_eq_nil_iff.mp hnil c hc) (by simp [hdrop])
  obtain ⟨c, rest, hrest⟩ := List.exists_cons_of_ne_nil hne
  have hc : drop c = false := by
    have hhead := List.head?_dropWhile_not drop cs
    rw [hrest] at hhead
    exact hhead
  have hsolid : trimRight drop (c :: rest) ≠ [] := trimRight_ne_nil ⟨c, List.mem_cons_self .., hc⟩
  obtain ⟨d, ds, hds⟩ := List.exists_cons_of_ne_nil hsolid
  have hsame : d :: ds <+: c :: rest := hds ▸ trimRight_starts
  obtain rfl : d = c := (List.cons_prefix_cons.mp hsame).1
  exact ⟨d, by rw [trim, trimLeft, hrest, hds]; rfl, hc⟩

theorem trim_eq_nil_iff : trim drop cs = [] ↔ ∀ c ∈ cs, drop c = true := by
  constructor
  · intro hnil c hc
    by_contra hdrop
    obtain ⟨d, hd, -⟩ := exists_head?_trim ⟨c, hc, Bool.eq_false_iff.mpr hdrop⟩
    simp [hnil] at hd
  · intro h
    rw [trim, trimLeft, List.dropWhile_eq_nil_iff.mpr h]
    rfl

theorem trimLeft_append (h : ∃ c ∈ l, drop c = false) (m : List Char) :
    trimLeft drop (l ++ m) = trimLeft drop l ++ m := by
  unfold trimLeft
  induction l with
  | nil => simp at h
  | cons d ds ih =>
    by_cases hd : drop d = true
    · have hds : ∃ c ∈ ds, drop c = false := by
        obtain ⟨c, hc, hdrop⟩ := h
        rcases List.mem_cons.mp hc with rfl | hc
        · simp [hd] at hdrop
        · exact ⟨c, hc, hdrop⟩
      rw [List.cons_append, List.dropWhile_cons_of_pos hd, List.dropWhile_cons_of_pos hd, ih hds]
    · rw [List.cons_append, List.dropWhile_cons_of_neg hd, List.dropWhile_cons_of_neg hd]
      rfl

theorem trimRight_all_blank (l : List Char) : (trimRight isBlank l).all isBlank = l.all isBlank := by
  cases hl : l.all isBlank with
  | true =>
    have hall := List.all_eq_true.mp hl
    exact List.all_eq_true.mpr fun c hc => hall c (trimRight_starts.subset hc)
  | false =>
    obtain ⟨c, hc, hblank⟩ := List.all_eq_false.mp hl
    have hne : trimRight isBlank l ≠ [] :=
      trimRight_ne_nil ⟨c, hc, Bool.eq_false_iff.mpr hblank⟩
    obtain ⟨e, he⟩ := Option.ne_none_iff_exists'.mp (mt List.getLast?_eq_none_iff.mp hne)
    refine List.all_eq_false.mpr ⟨e, List.mem_of_getLast? he, ?_⟩
    exact Bool.eq_false_iff.mp (trimRight_getLast? he)

end Trimming

theorem all_blank_eq_false {l : List Char} : l.all isBlank = false ↔ ∃ c ∈ l, isBlank c = false := by
  simp only [List.all_eq_false, Bool.not_eq_true]

/-- The lines of a text that are not blank. -/
def solidLines (cs : List Char) : List (List Char) := (splitLines cs).filter fun l => !l.all isBlank

theorem solidLines_append_end (cs : List Char) : solidLines (cs ++ ['\n']) = solidLines cs := by
  rcases splitLines_append_end cs with h | h
  · rw [solidLines, h, solidLines]
  · rw [solidLines, h, List.filter_append, solidLines]
    exact List.append_nil _

end GraphSchema.Text
