import GraphSchema.Proofs.Text.Capitals
import GraphSchema.Proofs.Text.LetterCase

/-! When the name of an ASCII label is its own name. Read as a label, a name is cut where a small
letter or a digit stands before a capital, so it stays as it is just if each word of the label that
begins with a letter comes behind one of them. -/
namespace GraphSchema.Label
open Text

/-- A capital comes behind a small letter or a digit only. -/
def Marked (c d : Char) : Prop := d.isUpper = true → (c.isLower || c.isDigit) = true

section Stability
variable {w cs : List Char} {ws : List (List Char)} {c d : Char}

theorem flatMap_eq_flatten_iff {f : List Char → List Char}
    (h : ∀ w ∈ ws, (f w).length = w.length) : ws.flatMap f = ws.flatten ↔ ∀ w ∈ ws, f w = w := by
  induction ws with
  | nil => simp
  | cons w ws ih =>
    obtain ⟨hw, hws⟩ := List.forall_mem_cons.mp h
    rw [List.flatMap_cons, List.flatten_cons, List.forall_mem_cons, ← ih hws]
    constructor
    · intro heq
      exact List.append_inj heq hw
    · rintro ⟨hword, hrest⟩
      rw [hword, hrest]

theorem capitalize_eq_self_iff (h : IsAscii (c :: cs)) :
    capitalize (c :: cs) = c :: cs ↔ c.isLower = false ∧ ∀ d ∈ cs, d.isUpper = false := by
  have htail : cs.map Char.toLower = cs ↔ ∀ d ∈ cs, d.toLower = d := by
    simpa using List.map_eq_map_iff (f := Char.toLower) (g := id) (l := cs)
  obtain ⟨hc, hcs⟩ := List.forall_mem_cons.mp h
  rw [capitalize_ascii h, List.cons.injEq, (cased_ascii hc).toUpper_eq_self_iff, htail]
  exact and_congr_right fun _ => forall₂_congr fun d hd => (cased_ascii (hcs d hd)).toLower_eq_self_iff

/-- No border lies inside of a word, so there a capital would not be marked. -/
theorem isChain_marked_iff (h : (c :: w).IsChain fun c d => joined c d) :
    (c :: w).IsChain Marked ↔ ∀ d ∈ w, d.isUpper = false := by
  induction w generalizing c with
  | nil => simp
  | cons d w ih =>
    obtain ⟨hcd, hrest⟩ := List.isChain_cons_cons.mp h
    have hborder : isBorder c d = false := by
      simp only [joined, Bool.and_eq_true] at hcd
      simpa using hcd.2
    rw [List.isChain_cons_cons, List.forall_mem_cons, ih hrest]
    refine and_congr_left fun _ => ?_
    rw [isBorder_eq] at hborder
    rw [Marked]
    cases hd : d.isUpper <;> simp_all

theorem splitWords_of_solid (h : ∀ c ∈ cs, isBlank c = false) :
    splitWords cs = cs.splitBy joined := by
  rw [splitWords_eq, List.filter_eq_self]
  intro w hw
  have hmem : ∀ c ∈ w, c ∈ cs := by
    intro c hc
    rw [← List.flatten_splitBy joined cs]
    exact List.mem_flatten.mpr ⟨w, hw, hc⟩
  simpa using fun c hc => h c (hmem c hc)

/-- Where two words of a text without blanks meet there is a border. -/
def Bordered (v w : List Char) : Prop :=
  ∀ c ∈ v.getLast?, ∀ d ∈ w.head?, isBorder c d = true

theorem isChain_bordered (h : ∀ c ∈ cs, isBlank c = false) :
    (splitWords cs).IsChain Bordered := by
  have hmem {v : List Char} (hv : v ∈ cs.splitBy joined) : ∀ c ∈ v, isBlank c = false := by
    rw [← splitWords_of_solid h] at hv
    exact (mem_splitWords hv).2
  rw [splitWords_of_solid h]
  refine (List.isChain_getLast_head_splitBy joined cs).imp_of_mem_imp fun v w hv hw hvw => ?_
  obtain ⟨hvne, hwne, happart⟩ := hvw
  intro c hc d hd
  have hlast : v.getLast hvne = c := List.getLast_of_mem_getLast? hc
  have hhead : w.head hwne = d := List.head_of_mem_head? hd
  have hsolid := hmem hv c (List.mem_of_mem_getLast? hc)
  have hsolid' := hmem hw d (List.mem_of_mem_head? hd)
  rw [hlast, hhead] at happart
  simpa [joined, hsolid, hsolid'] using happart

/-- Behind a border stands a capital, so that only the first word may begin with a small letter. -/
theorem not_lower_of_bordered (hascii : ∀ w ∈ ws, IsAscii w) (hnil : [] ∉ ws)
    (hchain : ws.IsChain Bordered)
    (hfirst : ∀ w ∈ ws.head?, ∀ c ∈ w.head?, c.isLower = false) :
    ∀ w ∈ ws, ∀ c ∈ w.head?, c.isLower = false := by
  induction ws with
  | nil => simp
  | cons v ws ih =>
    obtain ⟨hv, hnil⟩ : v ≠ [] ∧ [] ∉ ws := by simpa [eq_comm] using hnil
    obtain ⟨hnext, hchain⟩ := List.isChain_cons.mp hchain
    have hrest := (List.forall_mem_cons.mp hascii).2
    refine List.forall_mem_cons.mpr ⟨hfirst v rfl, ih hrest hnil hchain fun w hw d hd => ?_⟩
    have hborder := hnext w hw _ (List.getLast_mem_getLast? hv) d hd
    rw [isBorder_eq, Bool.and_eq_true] at hborder
    have hd' := cased_ascii (hrest w (List.mem_of_mem_head? hw) d (List.mem_of_mem_head? hd))
    exact Bool.eq_false_iff.mpr fun hsmall => hd'.apart ⟨hborder.2, hsmall⟩

/-- A text of ASCII characters without blanks is its own name if it begins with no small letter and
all of its capitals are marked. -/
theorem normalize_eq_self_iff (hascii : IsAscii cs) (h : ∀ c ∈ cs, isBlank c = false)
    (hhead : ∀ c ∈ cs.head?, c.isLower = false) : normalize cs = cs ↔ cs.IsChain Marked := by
  have hflat : (splitWords cs).flatten = cs := by simpa [flatten_splitWords] using h
  have hnil : [] ∉ splitWords cs := fun hmem => (mem_splitWords hmem).1 rfl
  have hfirst : ∀ w ∈ (splitWords cs).head?, ∀ c ∈ w.head?, c.isLower = false := by
    intro w hw c hc
    refine hhead c ?_
    obtain ⟨ws, hws⟩ := List.head?_eq_some_iff.mp hw
    rw [← hflat, hws, List.flatten_cons, List.head?_append]
    simp [Option.mem_def.mp hc]
  have hlower := not_lower_of_bordered (fun w hw => ascii_splitWords hascii hw) hnil
    (isChain_bordered h) hfirst
  have hlength : ∀ w ∈ splitWords cs, (capitalize w).length = w.length :=
    fun w hw => length_capitalize (ascii_splitWords hascii hw)
  have hfixed : normalize cs = cs ↔ ∀ w ∈ splitWords cs, capitalize w = w := by
    rw [← flatMap_eq_flatten_iff hlength, hflat]
    rfl
  have hmarked : cs.IsChain Marked ↔ ∀ w ∈ splitWords cs, w.IsChain Marked := by
    conv_lhs => rw [← hflat, List.isChain_flatten hnil]
    refine and_iff_left ((isChain_bordered h).imp fun v w hvw c hc d hd _ => ?_)
    have hborder := hvw c hc d hd
    rw [isBorder_eq, Bool.and_eq_true] at hborder
    exact hborder.1
  rw [hfixed, hmarked]
  refine forall₂_congr fun w hw => ?_
  obtain ⟨c, v, rfl⟩ := List.exists_cons_of_ne_nil (mem_splitWords hw).1
  have hinside : (c :: v).IsChain fun c d => joined c d := by
    rw [splitWords_of_solid h] at hw
    exact List.isChain_of_mem_splitBy hw
  rw [capitalize_eq_self_iff (ascii_splitWords hascii hw), isChain_marked_iff hinside]
  exact and_iff_right (hlower _ hw c rfl)

/-- A word made a name has no capital that would need a mark. -/
theorem isChain_capitalize (h : IsAscii w) : (capitalize w).IsChain Marked := by
  cases w with
  | nil => exact .nil
  | cons c cs =>
    have hcs := (List.forall_mem_cons.mp h).2
    rw [capitalize_ascii h, List.isChain_iff_getElem]
    intro i hi hcapital
    have hlength : i < cs.length := by simpa using hi
    have hsmall := (cased_ascii (hcs _ (List.getElem_mem hlength))).isUpper_toLower
    simp [hsmall] at hcapital

theorem ascii_capitalize (h : IsAscii w) : IsAscii (capitalize w) := by
  have hupper : ∀ c : Char, c.toNat < 128 → c.toUpper.toNat < 128 :=
    fun c => of_ascii (p := fun c => c.toUpper.toNat < 128) (by decide +kernel)
  have hlower : ∀ c : Char, c.toNat < 128 → c.toLower.toNat < 128 :=
    fun c => of_ascii (p := fun c => c.toLower.toNat < 128) (by decide +kernel)
  cases w with
  | nil => exact h
  | cons c cs =>
    obtain ⟨hc, hcs⟩ := List.forall_mem_cons.mp h
    rw [capitalize_ascii h]
    refine List.forall_mem_cons.mpr ⟨hupper c hc, ?_⟩
    exact List.forall_mem_map.mpr fun d hd => hlower d (hcs d hd)

theorem ascii_normalize (h : IsAscii cs) : IsAscii (normalize cs) := by
  intro c hc
  obtain ⟨w, hw, hc⟩ := List.mem_flatMap.mp hc
  exact ascii_capitalize (ascii_splitWords h hw) c hc

/-- The name of an ASCII label is its own name just if each word that begins with a letter comes
behind a small letter or a digit, as that stands in the name. -/
theorem normalize_stable_iff (h : IsAscii cs) : normalize (normalize cs) = normalize cs ↔
    (splitWords cs).IsChain fun v w =>
      (∃ d, w.head? = some d ∧ d.isAlpha = false) ∨
        ∃ c, (capitalize v).getLast? = some c ∧ (c.isLower || c.isDigit) = true := by
  have hhead : ∀ c ∈ (normalize cs).head?, c.isLower = false := fun c hc => not_small_of_head? hc
  have hcased : normalize cs = ((splitWords cs).map capitalize).flatten := List.flatMap_def
  have hne : ∀ w ∈ splitWords cs, capitalize w ≠ [] := by
    intro w hw hnil
    have hlength := length_capitalize (ascii_splitWords h hw)
    rw [hnil] at hlength
    exact (mem_splitWords hw).1 (List.length_eq_zero_iff.mp hlength.symm)
  have hnonempty : [] ∉ (splitWords cs).map capitalize := by
    intro hmem
    obtain ⟨w, hw, hnil⟩ := List.mem_map.mp hmem
    exact hne w hw hnil
  have hinside : ∀ w ∈ (splitWords cs).map capitalize, w.IsChain Marked :=
    List.forall_mem_map.mpr fun w hw => isChain_capitalize (ascii_splitWords h hw)
  rw [normalize_eq_self_iff (ascii_normalize h) (fun c hc => not_blank_of_mem_normalize hc) hhead,
    hcased, List.isChain_flatten hnonempty, and_iff_right hinside, List.isChain_map]
  refine List.IsChain.iff_of_mem_imp fun v w hv hw => ?_
  have hlast := List.getLast?_eq_some_getLast (hne v hv)
  obtain ⟨d, ds, rfl⟩ := List.exists_cons_of_ne_nil (mem_splitWords hw).1
  have hd := (List.forall_mem_cons.mp (ascii_splitWords h hw)).1
  simp only [hlast, capitalize_ascii (ascii_splitWords h hw), List.head?_cons, Option.mem_some_iff,
    forall_eq', Marked, (cased_ascii hd).isUpper_toUpper, Option.some.injEq, exists_eq_left']
  cases d.isAlpha <;> simp

end Stability

/-- The name of an ASCII label is its own name just if, of any two words of the label that follow
one another, the second begins with no letter, or the first as it stands in the name ends in a small
letter or a digit. -/
theorem identifier_stable_iff {label : String} (h : IsAscii label.toList) :
    identifier (identifier label) = identifier label ↔
      ∀ i v w, (splitWords label.toList)[i]? = some v → (splitWords label.toList)[i + 1]? = some w →
        (∃ d, w.head? = some d ∧ d.isAlpha = false) ∨
          ∃ c, (capitalize v).getLast? = some c ∧ (c.isLower || c.isDigit) = true := by
  have hchars : identifier (identifier label) = identifier label ↔
      normalize (normalize label.toList) = normalize label.toList := by
    rw [← toList_identifier, ← toList_identifier, String.toList_inj]
  rw [hchars, normalize_stable_iff h, List.isChain_iff_getElem]
  constructor
  · intro hchain i v w hv hw
    obtain ⟨hi, rfl⟩ := List.getElem?_eq_some_iff.mp hv
    obtain ⟨hnext, rfl⟩ := List.getElem?_eq_some_iff.mp hw
    exact hchain i hnext
  · intro hpairs i hi
    exact hpairs i _ _ (List.getElem?_eq_getElem (by omega)) (List.getElem?_eq_getElem hi)

theorem identifier_stable_account :
    identifier (identifier "user account") = identifier "user account" ∧
      identifier (identifier "a b") ≠ identifier "a b" ∧
      identifier "a b" = "AB" ∧ identifier "AB" = "Ab" := by
  have huser : splitWords "user account".toList = ["user".toList, "account".toList] := by decide
  have hletters : splitWords "a b".toList = ["a".toList, "b".toList] := by decide
  refine ⟨?_, ?_, by decide +kernel, by decide +kernel⟩
  · refine (identifier_stable_iff (by decide)).mpr fun i v w hv hw => .inr ?_
    rw [huser] at hv hw
    obtain _ | i := i
    · obtain rfl : "user".toList = v := Option.some.inj hv
      exact ⟨'r', by decide +kernel, by decide⟩
    · simp at hw
  · intro hstable
    have hborder := (identifier_stable_iff (by decide)).mp hstable 0 "a".toList "b".toList
      (by rw [hletters]; rfl) (by rw [hletters]; rfl)
    rcases hborder with ⟨d, hd, hletter⟩ | ⟨c, hc, hmark⟩
    · obtain rfl : 'b' = d := Option.some.inj hd
      exact absurd hletter (by decide)
    · have hlast : (capitalize "a".toList).getLast? = some 'A' := by decide +kernel
      obtain rfl : 'A' = c := Option.some.inj (hlast.symm.trans hc)
      exact absurd hmark (by decide)

end GraphSchema.Label
