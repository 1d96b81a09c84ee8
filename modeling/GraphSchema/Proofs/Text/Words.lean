import GraphSchema.Schema.Naming
import Mathlib.Data.List.SplitBy

/-! The words of a label. Blanks and camel case borders part them, and nothing but blanks is lost.
So a name is put together at a word border: the name of two labels with blanks or a border between
them is the name of the first and then that of the second. -/
namespace GraphSchema.Label
open Text

section Cutting
variable {α : Type} {r : α → α → Bool} {a b : α} {l : List α}

theorem splitBy_cons_of_apart (h : ∀ b ∈ l.head?, r a b = false) :
    (a :: l).splitBy r = [a] :: l.splitBy r :=
  List.splitBy_append (l := [a]) (by simpa using h)

theorem splitBy_cons_of_joined (h : r a b = true) :
    (a :: b :: l).splitBy r = ((b :: l).splitBy r).modifyHead (a :: ·) := by
  obtain ⟨w, ws, hw⟩ := List.exists_cons_of_ne_nil (List.splitBy_ne_nil.mpr (List.cons_ne_nil b l))
  obtain ⟨hflat, hnil, hinside, hbetween⟩ := List.splitBy_eq_iff.mp hw
  obtain ⟨c, cs, rfl⟩ := List.exists_cons_of_ne_nil fun h : w = [] => hnil (by simp [h])
  obtain rfl : b = c := by simpa using congrArg List.head? hflat
  obtain ⟨hfirst, hrest⟩ := List.forall_mem_cons.mp hinside
  rw [hw, List.modifyHead_cons]
  refine List.splitBy_eq_iff.mpr ⟨by simp [hflat], by simpa using hnil, ?_, ?_⟩
  · exact List.forall_mem_cons.mpr ⟨List.isChain_cons_cons.mpr ⟨h, hfirst⟩, hrest⟩
  · rw [List.isChain_cons] at hbetween ⊢
    simpa using hbetween

end Cutting

/-- Neighbours that stay in one word. -/
def joined (c d : Char) : Bool := !isBlank c && !isBlank d && !isBorder c d

section Words
variable {a b w cs : List Char} {c d : Char}

theorem splitWords_cons_blank (hc : isBlank c = true) : splitWords (c :: cs) = splitWords cs := by
  rw [splitWords, words.eq_def]
  simp [hc, splitWords]

theorem exists_words (hc : isBlank c = false) (cs : List Char) :
    ∃ w ws, words (c :: cs) = (c :: w) :: ws := by
  rw [words.eq_def]
  simp only [hc, Bool.false_eq_true, if_false]
  split
  next => exact ⟨[], [], rfl⟩
  next =>
    split
    next => exact ⟨[], _, rfl⟩
    next => split <;> exact ⟨_, _, rfl⟩

theorem exists_humps (c : Char) (cs : List Char) : ∃ w ws, humps (c :: cs) = (c :: w) :: ws := by
  rw [humps.eq_def]
  dsimp only
  split
  next => exact ⟨[], [], rfl⟩
  next =>
    split
    next => exact ⟨[], _, rfl⟩
    next => split <;> exact ⟨_, _, rfl⟩

theorem splitWords_cons_apart (hc : isBlank c = false) (h : ∀ d ∈ cs.head?, joined c d = false) :
    splitWords (c :: cs) = [c] :: splitWords cs := by
  cases cs with
  | nil => simp [splitWords, words.eq_def [c], words.eq_def [], hc, humps]
  | cons d ds =>
    cases hd : isBlank d with
    | true => simp [splitWords, words.eq_def (c :: d :: ds), hc, hd, humps]
    | false =>
      have hborder : isBorder c d = true := by simpa [joined, hc, hd] using h
      obtain ⟨w, ws, hw⟩ := exists_words hd ds
      simp [splitWords, words.eq_def (c :: d :: ds), hc, hd, hw, hborder, humps]

theorem splitWords_cons_joined (h : joined c d = true) :
    splitWords (c :: d :: cs) = (splitWords (d :: cs)).modifyHead (c :: ·) := by
  obtain ⟨⟨hc, hd⟩, hborder⟩ : (isBlank c = false ∧ isBlank d = false) ∧ isBorder c d = false := by
    simpa [joined] using h
  obtain ⟨w, ws, hw⟩ := exists_words hd cs
  obtain ⟨v, vs, hv⟩ := exists_humps d w
  simp [splitWords, words.eq_def (c :: d :: cs), hc, hd, hw, hborder, humps.eq_def (c :: d :: w),
    hv]

/-- A run of joined neighbours is a blank on its own or holds none. -/
theorem solid_of_isChain (h : (c :: w).IsChain fun c d => joined c d) (hc : isBlank c = false) :
    ∀ d ∈ c :: w, isBlank d = false := by
  induction w generalizing c with
  | nil => simpa using hc
  | cons d w ih =>
    obtain ⟨hcd, hrest⟩ := List.isChain_cons_cons.mp h
    have hd : isBlank d = false := by
      simp only [joined, Bool.and_eq_true] at hcd
      simpa using hcd.1.2
    exact List.forall_mem_cons.mpr ⟨hc, ih hrest hd⟩

theorem run_cases (hw : w ∈ cs.splitBy joined) :
    (∀ c ∈ w, isBlank c = false) ∨ ∃ c, isBlank c = true ∧ w = [c] := by
  have hchain := List.isChain_of_mem_splitBy hw
  obtain ⟨c, v, rfl⟩ := List.exists_cons_of_ne_nil (List.ne_nil_of_mem_splitBy hw)
  cases hc : isBlank c with
  | false => exact .inl (solid_of_isChain hchain hc)
  | true =>
    cases v with
    | nil => exact .inr ⟨c, hc, rfl⟩
    | cons d v => simp [joined, hc] at hchain

/-- The words are the runs of joined neighbours, those of a blank apart. -/
theorem splitWords_eq (cs : List Char) :
    splitWords cs = (cs.splitBy joined).filter fun w => w.all fun c => !isBlank c := by
  induction cs with
  | nil => rfl
  | cons c cs ih =>
    by_cases hc : isBlank c = true
    · rw [splitWords_cons_blank hc, splitBy_cons_of_apart (by simp [joined, hc]), ih]
      simp [hc]
    rw [Bool.not_eq_true] at hc
    by_cases h : ∀ d ∈ cs.head?, joined c d = false
    · rw [splitWords_cons_apart hc h, splitBy_cons_of_apart h, ih]
      simp [hc]
    · obtain ⟨d, ds, rfl⟩ := List.exists_cons_of_ne_nil fun hnil : cs = [] => h (by simp [hnil])
      have hcd : joined c d = true := by simpa using h
      obtain ⟨w, ws, hw⟩ :=
        List.exists_cons_of_ne_nil (List.splitBy_ne_nil.mpr (List.cons_ne_nil d ds))
      have hflat : d :: ds = w ++ ws.flatten := (List.splitBy_eq_iff.mp hw).1
      -- the run that `c` is put in front of is a word: it begins with `d`, which is no blank
      have hsolid : w.all (fun e => !isBlank e) = true := by
        rcases run_cases (hw ▸ List.mem_cons_self ..) with hsolid | ⟨e, he, rfl⟩
        · simpa using hsolid
        · obtain rfl : d = e := (List.cons.inj hflat).1
          simp [joined, he] at hcd
      rw [splitWords_cons_joined hcd, splitBy_cons_of_joined hcd, ih, hw]
      simp [hsolid, hc]

/-- Words are not empty and hold no blank. -/
theorem mem_splitWords (hw : w ∈ splitWords cs) : w ≠ [] ∧ ∀ c ∈ w, isBlank c = false := by
  rw [splitWords_eq, List.mem_filter] at hw
  exact ⟨List.ne_nil_of_mem_splitBy hw.1, by simpa using hw.2⟩

theorem flatten_filter_runs {ws : List (List Char)}
    (h : ∀ w ∈ ws, (∀ c ∈ w, isBlank c = false) ∨ ∃ c, isBlank c = true ∧ w = [c]) :
    (ws.filter fun w => w.all fun c => !isBlank c).flatten =
      ws.flatten.filter fun c => !isBlank c := by
  induction ws with
  | nil => rfl
  | cons w ws ih =>
    obtain ⟨hw, hws⟩ := List.forall_mem_cons.mp h
    rw [List.flatten_cons, List.filter_append, ← ih hws]
    rcases hw with hsolid | ⟨c, hc, rfl⟩
    · have hall : w.all (fun c => !isBlank c) = true := by simpa using hsolid
      have hself : w.filter (fun c => !isBlank c) = w := by simpa using hsolid
      rw [hself, List.filter_cons, if_pos hall, List.flatten_cons]
    · simp [hc]

/-- The words are a partition of what a label holds besides blanks. -/
theorem flatten_splitWords (cs : List Char) :
    (splitWords cs).flatten = cs.filter fun c => !isBlank c := by
  rw [splitWords_eq, flatten_filter_runs fun w hw => run_cases hw, List.flatten_splitBy]

theorem splitWords_append (h : ∀ c ∈ a.getLast?, ∀ d ∈ b.head?, joined c d = false) :
    splitWords (a ++ b) = splitWords a ++ splitWords b := by
  rw [splitWords_eq, List.splitBy_append h, List.filter_append, ← splitWords_eq, ← splitWords_eq]

theorem normalize_append (h : ∀ c ∈ a.getLast?, ∀ d ∈ b.head?, joined c d = false) :
    normalize (a ++ b) = normalize a ++ normalize b := by
  rw [normalize, splitWords_append h, List.flatMap_append]
  rfl

theorem normalize_blank (h : ∀ c ∈ a, isBlank c = true) : normalize a = [] := by
  induction a with
  | nil => rfl
  | cons c cs ih =>
    obtain ⟨hc, hcs⟩ := List.forall_mem_cons.mp h
    rw [normalize, splitWords_cons_blank hc]
    exact ih hcs

theorem isBorder_eq (c d : Char) : isBorder c d = ((c.isLower || c.isDigit) && d.isUpper) :=
  congrArg ((c.isLower || c.isDigit) && ·) (Bool.decide_and ..).symm

theorem joined_of_border (hc : (c.isLower || c.isDigit) = true) (hd : d.isUpper = true) :
    joined c d = false := by
  simp [joined, isBorder_eq, hc, hd]

end Words

section Borders
variable {a b w : String}

theorem identifier_append
    (h : ∀ c ∈ a.toList.getLast?, ∀ d ∈ b.toList.head?, joined c d = false) :
    identifier (a ++ b) = identifier a ++ identifier b := by
  simp [identifier, normalize_append h]

theorem identifier_append_blank (a : String) (hw : ∀ c ∈ w.toList, isBlank c = true) :
    identifier (a ++ w) = identifier a := by
  have happend : identifier (a ++ w) = identifier a ++ identifier w := by
    refine identifier_append fun c _ d hd => ?_
    simp [joined, hw d (List.mem_of_mem_head? hd)]
  simpa [identifier, normalize_blank hw] using happend

theorem identifier_blank_append (b : String) (hw : ∀ c ∈ w.toList, isBlank c = true) :
    identifier (w ++ b) = identifier b := by
  have happend : identifier (w ++ b) = identifier w ++ identifier b := by
    refine identifier_append fun c hc d _ => ?_
    simp [joined, hw c (List.mem_of_mem_getLast? hc)]
  simpa [identifier, normalize_blank hw] using happend

theorem identifier_across (a b : String) (hne : w ≠ "") (hw : ∀ c ∈ w.toList, isBlank c = true) :
    identifier (a ++ w ++ b) = identifier a ++ identifier b := by
  have hchars : w.toList ≠ [] := by simpa using hne
  rw [identifier_append, identifier_append_blank a hw]
  intro c hc d _
  rw [String.toList_append, List.getLast?_append_of_ne_nil _ hchars] at hc
  simp [joined, hw c (List.mem_of_mem_getLast? hc)]

/-- The name of two labels with blanks between them, or with a small letter or a digit before a
capital where they meet, is the name of the first and then that of the second. So blanks at either
end and how many stand between two words make no difference, and a camel case border gives the same
name as a space. -/
theorem identifier_at_borders (a b : String) :
    (∀ w : String, w ≠ "" → (∀ c ∈ w.toList, isBlank c = true) →
      identifier (a ++ w ++ b) = identifier a ++ identifier b) ∧
    (∀ c ∈ a.toList.getLast?, ∀ d ∈ b.toList.head?, (c.isLower || c.isDigit) = true →
      d.isUpper = true → identifier (a ++ b) = identifier a ++ identifier b ∧
        identifier (a ++ b) = identifier (a ++ " " ++ b)) ∧
    (∀ w : String, (∀ c ∈ w.toList, isBlank c = true) →
      identifier (w ++ a) = identifier a ∧ identifier (a ++ w) = identifier a) ∧
    ∀ v w : String, v ≠ "" → w ≠ "" → (∀ c ∈ v.toList, isBlank c = true) →
      (∀ c ∈ w.toList, isBlank c = true) →
        identifier (a ++ v ++ b) = identifier (a ++ w ++ b) := by
  refine ⟨?_, ?_, ?_, ?_⟩
  · intro w hne hw
    exact identifier_across a b hne hw
  · intro c hc d hd hlow hcapital
    have happend : identifier (a ++ b) = identifier a ++ identifier b := by
      refine identifier_append fun c' hc' d' hd' => ?_
      obtain rfl := Option.mem_unique hc hc'
      obtain rfl := Option.mem_unique hd hd'
      exact joined_of_border hlow hcapital
    have hspace : identifier (a ++ " " ++ b) = identifier a ++ identifier b :=
      identifier_across a b (by decide) (List.all_eq_true.mp (by decide))
    exact ⟨happend, happend.trans hspace.symm⟩
  · intro w hw
    exact ⟨identifier_blank_append a hw, identifier_append_blank a hw⟩
  · intro v w hv hw hvs hws
    rw [identifier_across a b hv hvs, identifier_across a b hw hws]

theorem identifier_at_borders_account :
    identifier ("user" ++ "\t " ++ "Account") = identifier "user" ++ identifier "Account" ∧
      identifier ("user" ++ "Account") = identifier ("user" ++ " " ++ "Account") ∧
      identifier ("  " ++ "user") = identifier "user" ∧
      identifier ("user" ++ "\t " ++ "Account") = identifier ("user" ++ "\u3000" ++ "Account") := by
  obtain ⟨hblank, hborder, houter, hbetween⟩ := identifier_at_borders "user" "Account"
  have hspaces : ∀ c ∈ "\t ".toList, isBlank c = true := List.all_eq_true.mp (by decide)
  have hwide : ∀ c ∈ "\u3000".toList, isBlank c = true := List.all_eq_true.mp (by decide)
  refine ⟨hblank "\t " (by decide) hspaces, ?_, (houter "  " (List.all_eq_true.mp (by decide))).1,
    hbetween "\t " "\u3000" (by decide) (by decide) hspaces hwide⟩
  exact (hborder 'r' (by decide) 'A' (by decide) (by decide) (by decide)).2

end Borders
end GraphSchema.Label
