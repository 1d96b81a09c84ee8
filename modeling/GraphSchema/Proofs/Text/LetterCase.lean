import GraphSchema.Proofs.Text.Names

/-! Names and labels in small letters. A name is its label without the blanks, in another letter
case: of an ASCII label each letter that begins a word is a capital, and each other one is small. -/
namespace GraphSchema.Text

/-- A text of ASCII characters. -/
def IsAscii (cs : List Char) : Prop := ∀ c ∈ cs, c.toNat < 128

instance : DecidablePred IsAscii :=
  fun cs => List.decidableBAll (fun c : Char => c.toNat < 128) cs

section Mapping
variable {expansions : List (Nat × List Nat)} {runs : List CaseRun} {r : CaseRun} {c : Char}
  {cs : List Char}

/-- For a code point below 128 only the runs that begin there count. -/
theorem mapThrough_ascii {n : Nat} (hn : n < 128) (runs : List CaseRun) :
    mapThrough (runs.filter fun r => r.first < 128) n = mapThrough runs n := by
  rw [mapThrough, mapThrough, List.find?_filter]
  refine congrArg _ (congrArg (List.find? · runs) (funext fun r => ?_))
  by_cases hfirst : r.first < 128
  · simp [hfirst]
  · have hlow : ¬r.first ≤ n := by omega
    simp [CaseRun.contains, hfirst, hlow]

theorem mapChar_ascii (hexpansions : ∀ e ∈ expansions, 128 ≤ e.1)
    (hruns : (runs.filter fun r => r.first < 128) = [r]) (hc : c.toNat < 128) :
    mapChar expansions runs c = mapChar [] [r] c := by
  have hlookup : expansions.lookup c.toNat = none := by
    refine List.lookup_eq_none_iff.mpr fun e he => ?_
    have hlarge := hexpansions e he
    rw [bne_iff_ne]
    omega
  rw [mapChar, mapChar, hlookup, List.lookup_nil, ← hruns, mapThrough_ascii hc]

/-- What holds of all code points below 128 holds of every ASCII character. -/
theorem of_ascii {p : Char → Prop} (h : ∀ n < 128, p (Char.ofNat n)) (hc : c.toNat < 128) :
    p c := by
  simpa using h c.toNat hc

theorem upperChar_ascii (hc : c.toNat < 128) : upperChar c = [c.toUpper] := by
  have hruns : (upperRuns.filter fun r => r.first < 128) = [⟨97, 122, 1, 65⟩] := by decide +kernel
  have hexpansions : ∀ e ∈ upperExpansions, 128 ≤ e.1 := by decide +kernel
  rw [upperChar, mapChar_ascii hexpansions hruns hc]
  exact of_ascii (p := fun c => mapChar [] [⟨97, 122, 1, 65⟩] c = [c.toUpper])
    (by decide +kernel) hc

theorem lowerChar_ascii (hc : c.toNat < 128) : lowerChar c = [c.toLower] := by
  have hruns : (lowerRuns.filter fun r => r.first < 128) = [⟨65, 90, 1, 97⟩] := by decide +kernel
  have hexpansions : ∀ e ∈ lowerExpansions, 128 ≤ e.1 := by decide +kernel
  rw [lowerChar, mapChar_ascii hexpansions hruns hc]
  exact of_ascii (p := fun c => mapChar [] [⟨65, 90, 1, 97⟩] c = [c.toLower])
    (by decide +kernel) hc

/-- How the capital and the small form of a character go together. -/
structure Cased (c : Char) : Prop where
  toLower_toUpper : c.toUpper.toLower = c.toLower
  toLower_toLower : c.toLower.toLower = c.toLower
  isUpper_toUpper : c.toUpper.isUpper = c.isAlpha
  isAlpha_toUpper : c.toUpper.isAlpha = c.isAlpha
  isUpper_toLower : c.toLower.isUpper = false
  toUpper_eq_self_iff : c.toUpper = c ↔ c.isLower = false
  toLower_eq_self_iff : c.toLower = c ↔ c.isUpper = false
  apart : ¬(c.isUpper = true ∧ c.isLower = true)

theorem cased_ascii (hc : c.toNat < 128) : Cased c where
  toLower_toUpper := of_ascii (p := fun c => c.toUpper.toLower = c.toLower) (by decide +kernel) hc
  toLower_toLower := of_ascii (p := fun c => c.toLower.toLower = c.toLower) (by decide +kernel) hc
  isUpper_toUpper := of_ascii (p := fun c => c.toUpper.isUpper = c.isAlpha) (by decide +kernel) hc
  isAlpha_toUpper := of_ascii (p := fun c => c.toUpper.isAlpha = c.isAlpha) (by decide +kernel) hc
  isUpper_toLower := of_ascii (p := fun c => c.toLower.isUpper = false) (by decide +kernel) hc
  toUpper_eq_self_iff :=
    of_ascii (p := fun c => c.toUpper = c ↔ c.isLower = false) (by decide +kernel) hc
  toLower_eq_self_iff :=
    of_ascii (p := fun c => c.toLower = c ↔ c.isUpper = false) (by decide +kernel) hc
  apart := of_ascii (p := fun c => ¬(c.isUpper = true ∧ c.isLower = true)) (by decide +kernel) hc

/-- There is no sigma to be lowered in an ASCII text. -/
theorem lowerAfter_ascii (inWord : Bool) (h : IsAscii cs) :
    lowerAfter inWord cs = cs.map Char.toLower := by
  induction cs generalizing inWord with
  | nil => rfl
  | cons c cs ih =>
    obtain ⟨hc, hcs⟩ := List.forall_mem_cons.mp h
    have hsigma : c ≠ 'Σ' := by
      rintro rfl
      exact absurd hc (by decide)
    simp [lowerAfter, hsigma, lowerChar_ascii hc, ih _ hcs]

end Mapping
end GraphSchema.Text

namespace GraphSchema.Label
open Text

/-- One of the words begins where so many characters of the words stand before it. -/
def StartsAt (ws : List (List Char)) (i : Nat) : Prop :=
  ∃ before w after, ws = before ++ w :: after ∧ before.flatten.length = i

section Casing
variable {w cs : List Char} {ws : List (List Char)} {c : Char} {i : Nat}

theorem startsAt_cons :
    StartsAt (w :: ws) i ↔ i = 0 ∨ w.length ≤ i ∧ StartsAt ws (i - w.length) := by
  constructor
  · rintro ⟨before, v, after, hws, rfl⟩
    cases before with
    | nil => exact .inl rfl
    | cons u before =>
      obtain ⟨rfl, rfl⟩ := List.cons.inj hws
      exact .inr ⟨by simp, before, v, after, rfl, by simp⟩
  · rintro (rfl | ⟨hlength, before, v, after, rfl, hi⟩)
    · exact ⟨[], w, ws, rfl, rfl⟩
    · refine ⟨w :: before, v, after, rfl, ?_⟩
      rw [List.flatten_cons, List.length_append]
      omega

theorem capitalize_ascii (h : IsAscii (c :: cs)) :
    capitalize (c :: cs) = c.toUpper :: cs.map Char.toLower := by
  obtain ⟨hc, hcs⟩ := List.forall_mem_cons.mp h
  simp [capitalize, upperChar_ascii hc, lower, lowerAfter_ascii false hcs]

theorem length_capitalize (h : IsAscii w) : (capitalize w).length = w.length := by
  cases w with
  | nil => rfl
  | cons c cs => simp [capitalize_ascii h]

theorem toLower_capitalize (h : IsAscii w) :
    (capitalize w).map Char.toLower = w.map Char.toLower := by
  cases w with
  | nil => rfl
  | cons c cs =>
    obtain ⟨hc, hcs⟩ := List.forall_mem_cons.mp h
    rw [capitalize_ascii h, List.map_cons, List.map_cons, (cased_ascii hc).toLower_toUpper,
      List.map_map]
    exact congrArg _ (List.map_congr_left fun d hd => (cased_ascii (hcs d hd)).toLower_toLower)

/-- In a word made a name, only the first letter is a capital. -/
theorem isUpper_capitalize (h : IsAscii w) (hget : (capitalize w)[i]? = some c)
    (hc : c.isAlpha = true) : c.isUpper = true ↔ i = 0 := by
  cases w with
  | nil => simp [capitalize] at hget
  | cons d ds =>
    rw [capitalize_ascii h] at hget
    obtain ⟨hd, hds⟩ := List.forall_mem_cons.mp h
    cases i with
    | zero =>
      obtain rfl : d.toUpper = c := by simpa using hget
      rw [(cased_ascii hd).isAlpha_toUpper] at hc
      simp [(cased_ascii hd).isUpper_toUpper, hc]
    | succ i =>
      obtain ⟨e, he, rfl⟩ : ∃ e, ds[i]? = some e ∧ e.toLower = c := by simpa using hget
      simp [(cased_ascii (hds e (List.mem_of_getElem? he))).isUpper_toLower]

/-- In words made names, the capitals are the letters where a word begins. -/
theorem isUpper_iff_startsAt (hws : ∀ w ∈ ws, w ≠ [] ∧ IsAscii w)
    (hget : (ws.flatMap capitalize)[i]? = some c) (hc : c.isAlpha = true) :
    c.isUpper = true ↔ StartsAt ws i := by
  induction ws generalizing i with
  | nil => simp at hget
  | cons w ws ih =>
    obtain ⟨⟨hne, hw⟩, hws⟩ := List.forall_mem_cons.mp hws
    have hlength : 0 < (capitalize w).length := by
      rw [length_capitalize hw]
      exact List.length_pos_of_ne_nil hne
    rw [List.flatMap_cons] at hget
    rw [startsAt_cons, ← length_capitalize hw]
    by_cases hi : i < (capitalize w).length
    · rw [List.getElem?_append_left hi] at hget
      rw [isUpper_capitalize hw hget hc]
      omega
    · rw [List.getElem?_append_right (by omega)] at hget
      rw [ih hws hget]
      constructor
      · intro hstart
        exact .inr ⟨by omega, hstart⟩
      · rintro (hzero | ⟨-, hstart⟩)
        · omega
        · exact hstart

theorem ascii_splitWords (h : IsAscii cs) (hw : w ∈ splitWords cs) : IsAscii w := by
  intro c hc
  have hflat : c ∈ (splitWords cs).flatten := List.mem_flatten.mpr ⟨w, hw, hc⟩
  rw [flatten_splitWords] at hflat
  exact h c (List.mem_of_mem_filter hflat)

theorem toLower_normalize (h : IsAscii cs) :
    (normalize cs).map Char.toLower = (cs.filter fun c => !isBlank c).map Char.toLower := by
  have hwords : ∀ w ∈ splitWords cs, (capitalize w).map Char.toLower = w.map Char.toLower :=
    fun w hw => toLower_capitalize (ascii_splitWords h hw)
  rw [normalize, List.map_flatMap, ← flatten_splitWords, List.map_flatten,
    List.flatMap_congr hwords, List.flatMap_def]

end Casing

/-- A label without its blanks, in small letters. -/
def folded (label : String) : List Char :=
  (label.toList.filter fun c => !isBlank c).map Char.toLower

/-- A name holds no blank, and is empty just for a blank label. The name of an ASCII label is the
label without its blanks, but for the case of letters: a letter of it is a capital if a word begins
there, and else small. So ASCII labels with one name differ in blanks and the case of letters
only. -/
theorem identifier_recased :
    (∀ label : String, Solid (identifier label) ∧
      (identifier label = "" ↔ ∀ c ∈ label.toList, isBlank c = true)) ∧
    (∀ label : String, IsAscii label.toList →
      (identifier label).toList.map Char.toLower = folded label ∧
      ∀ i c, (identifier label).toList[i]? = some c → c.isAlpha = true →
        (c.isUpper = true ↔ StartsAt (splitWords label.toList) i)) ∧
    ∀ a b : String, IsAscii a.toList → IsAscii b.toList → identifier a = identifier b →
      folded a = folded b := by
  have hfold (label : String) (h : IsAscii label.toList) :
      (identifier label).toList.map Char.toLower = folded label := by
    rw [toList_identifier, toLower_normalize h, folded]
  refine ⟨fun label => ⟨solid_identifier label, ?_⟩, fun label h => ⟨hfold label h, ?_⟩, ?_⟩
  · rw [← String.toList_eq_nil_iff, toList_identifier]
    constructor
    · intro hnil c hc
      by_contra hblank
      exact normalize_ne_nil ⟨c, hc, by simpa using hblank⟩ hnil
    · exact normalize_blank
  · intro i c hget hc
    rw [toList_identifier] at hget
    exact isUpper_iff_startsAt
      (fun w hw => ⟨(mem_splitWords hw).1, ascii_splitWords h hw⟩) hget hc
  · intro a b ha hb hname
    rw [← hfold a ha, ← hfold b hb, hname]

theorem identifier_recased_home :
    IsAscii "worksAt\tHOME 2b".toList ∧ identifier "worksAt\tHOME 2b" = "WorksAtHome2b" ∧
      "WorksAtHome2b".toList.map Char.toLower = folded "worksAt\tHOME 2b" ∧
      StartsAt (splitWords "worksAt\tHOME 2b".toList) 5 ∧
      ¬StartsAt (splitWords "worksAt\tHOME 2b".toList) 12 ∧
      folded "worksAt\tHOME 2b" = folded "WORKS at home 2b" := by
  have hascii : IsAscii "worksAt\tHOME 2b".toList := by decide
  have hname : identifier "worksAt\tHOME 2b" = "WorksAtHome2b" := by decide +kernel
  have hother : identifier "WORKS at home 2b" = "WorksAtHome2b" := by decide +kernel
  obtain ⟨hfold, hcapital⟩ := identifier_recased.2.1 _ hascii
  rw [hname] at hfold hcapital
  refine ⟨hascii, hname, hfold, ?_, ?_, ?_⟩
  · exact (hcapital 5 'A' (by decide) (by decide)).mp (by decide)
  · rw [← hcapital 12 'b' (by decide) (by decide)]
    decide
  · exact identifier_recased.2.2 _ _ hascii (by decide) (hname.trans hother.symm)

end GraphSchema.Label
