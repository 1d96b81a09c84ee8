import GraphSchema.Proofs.Text.Collapse
import GraphSchema.Proofs.Text.Names
import GraphSchema.Proofs.Text.OneLine
import GraphSchema.Text.Encoding

/-! Texts that UTF-8 can write: those without half of a surrogate pair on its own. Neither a name made
from a label nor collapsing adds or loses a half. Of what can be read, only ASCII is needed. -/
namespace GraphSchema.Text

section Encodings
variable {e : Encoding} {cs : List Char} {bytes : Bytes}

theorem encode_eq_ok : encode e cs = .ok bytes ↔
    (∀ c ∈ cs, e.holds c = true) ∧ cs.flatMap e.bytes = bytes := by
  unfold encode
  split
  next h =>
    rw [List.dropWhile_eq_nil_iff] at h
    rw [Except.ok.injEq, and_iff_right h]
  next c rest h =>
    refine iff_of_false (by simp) ?_
    rintro ⟨hall, -⟩
    rw [List.dropWhile_eq_nil_iff.mpr hall] at h
    exact absurd h (by simp)

theorem holds_utf8 (c : Char) : Encoding.utf8.holds c = !isHalf c := by
  have hbound : c.toNat < Encoding.utf8.limit := by
    rcases c.valid with hvalid | ⟨-, hvalid⟩
    · exact lt_trans hvalid (by decide)
    · exact hvalid
  simp [Encoding.holds, hbound]

theorem exists_utf8_iff : (∃ bytes, encode .utf8 cs = .ok bytes) ↔ Whole cs := by
  simp only [encode_eq_ok, holds_utf8, Bool.not_eq_true', exists_and_left, exists_eq', and_true]
  rfl

theorem exists_utf8_error (h : ¬Whole cs) : ∃ x, encode .utf8 cs = .error x := by
  cases hencode : encode .utf8 cs with
  | ok bytes => exact absurd (exists_utf8_iff.mp ⟨bytes, hencode⟩) h
  | error x => exact ⟨x, rfl⟩

end Encodings

section Ascii
variable {cs : List Char}

/-- A text of ASCII characters, each as its byte. -/
def asciiBytes (cs : List Char) : Bytes := cs.map fun c => UInt8.ofNat c.toNat

theorem charOf_toNat_ascii {c : Char} (h : c.toNat < 128) : charOf c.toNat = c := by
  have hhalf : isHalfCode c.toNat = false := by
    rw [Bool.eq_false_iff, Ne, isHalfCode_iff]
    omega
  have hoffset : isHalfCode (c.toNat - halfOffset) = false := by
    rw [Bool.eq_false_iff, Ne, isHalfCode_iff]
    omega
  rw [charOf, hhalf, hoffset, if_neg Bool.false_ne_true, if_neg Bool.false_ne_true,
    Char.ofNat_toNat]

theorem decodeFrom_asciiBytes (h : ∀ c ∈ cs, c.toNat < 128) (position : Nat) :
    decodeFrom position (asciiBytes cs) = .ok cs := by
  induction cs generalizing position with
  | nil => rw [asciiBytes, List.map_nil, decodeFrom]
  | cons c cs ih =>
    obtain ⟨hc, hcs⟩ := List.forall_mem_cons.mp h
    have hbyte : (UInt8.ofNat c.toNat).toNat = c.toNat :=
      UInt8.toNat_ofNat_of_lt (hc.trans (by decide))
    have hfirst : readCodePoint (UInt8.ofNat c.toNat) (asciiBytes cs) = .ok (c.toNat, 0) := by
      simp only [readCodePoint, hbyte, if_pos hc]
    have hcons : asciiBytes (c :: cs) = UInt8.ofNat c.toNat :: asciiBytes cs := rfl
    rw [hcons, decodeFrom, hfirst]
    simp only [List.drop_zero, ih hcs, charOf_toNat_ascii hc]

end Ascii

section Texts
variable {c : Char} {cs ds : List Char}

@[simp] theorem whole_nil : Whole [] := fun _ h => absurd h List.not_mem_nil

@[simp] theorem whole_cons : Whole (c :: cs) ↔ isHalf c = false ∧ Whole cs := List.forall_mem_cons

@[simp] theorem whole_append : Whole (cs ++ ds) ↔ Whole cs ∧ Whole ds := List.forall_mem_append

theorem Whole.subset (h : Whole ds) (hcs : cs ⊆ ds) : Whole cs := fun c hc => h c (hcs hc)

theorem not_blank_of_half (h : isHalf c = true) : isBlank c = false := by
  obtain ⟨hlow, -⟩ := isHalfCode_iff.mp h
  rw [halfOffset] at hlow
  rw [Bool.eq_false_iff]
  intro hblank
  simp only [isBlank, Bool.or_eq_true, Bool.and_eq_true, decide_eq_true_eq, beq_iff_eq] at hblank
  omega

/-- A text and the line feed after it. -/
theorem exists_utf8_line_iff {text : String} :
    (∃ bytes, encode .utf8 (text ++ "\n").toList = .ok bytes) ↔ Whole text.toList := by
  have hfeed : Whole "\n".toList := by decide
  rw [exists_utf8_iff, String.toList_append, whole_append, and_iff_left hfeed]

@[simp] theorem whole_collapse : Whole (collapse cs) ↔ Whole cs := by
  have hmem {c : Char} (hc : isHalf c = true) : c ∈ collapse cs ↔ c ∈ cs :=
    mem_collapse_iff (not_blank_of_half hc)
  constructor
  · intro h c hc
    rw [Bool.eq_false_iff]
    intro hhalf
    exact absurd (h c ((hmem hhalf).mpr hc)) (by simp [hhalf])
  · intro h c hc
    rw [Bool.eq_false_iff]
    intro hhalf
    exact absurd (h c ((hmem hhalf).mp hc)) (by simp [hhalf])

end Texts

section LetterCase
variable {expansions : List (Nat × List Nat)} {runs : List CaseRun} {c : Char} {cs : List Char}

theorem isHalf_eq_inRanges (c : Char) : isHalf c = inRanges [(0xdd800, 0xddfff)] c.toNat := by
  rw [Bool.eq_iff_iff, isHalf, isHalfCode_iff, inRanges_iff, halfOffset]
  simp only [List.mem_singleton, exists_eq_left]
  omega

theorem caseless_halves : Caseless [(0xdd800, 0xddfff)] := by
  constructor <;> decide +kernel

/-- Beyond its tables a mapping changes nothing. -/
theorem mapChar_beyond (hexpansions : ∀ e ∈ expansions, e.1 < 0xdd800)
    (hruns : ∀ r ∈ runs, r.last < 0xdd800) (hc : 0xdd800 ≤ c.toNat) :
    mapChar expansions runs c = [c] := by
  have hlookup : expansions.lookup c.toNat = none := by
    refine List.lookup_eq_none_iff.mpr fun e he => ?_
    have hsmall := hexpansions e he
    rw [bne_iff_ne]
    omega
  have hthrough : mapThrough runs c.toNat = none := by
    rw [mapThrough, Option.map_eq_none_iff, List.find?_eq_none]
    intro r hr
    have hsmall := hruns r hr
    simp only [CaseRun.contains, Bool.and_eq_true, decide_eq_true_eq]
    omega
  rw [mapChar, hlookup, hthrough]

variable (hc : isHalf c = true)
include hc

theorem toNat_of_half : 0xdd800 ≤ c.toNat := by
  obtain ⟨hlow, -⟩ := isHalfCode_iff.mp hc
  rw [halfOffset] at hlow
  omega

theorem upperChar_half : upperChar c = [c] :=
  mapChar_beyond (by decide +kernel) (by decide +kernel) (toNat_of_half hc)

theorem lowerChar_half : lowerChar c = [c] :=
  mapChar_beyond (by decide +kernel) (by decide +kernel) (toNat_of_half hc)

theorem half_mem_lowerAfter (inWord : Bool) (hmem : c ∈ cs) : c ∈ lowerAfter inWord cs := by
  induction cs generalizing inWord with
  | nil => exact absurd hmem List.not_mem_nil
  | cons d cs ih =>
    rw [lowerAfter]
    rcases List.mem_cons.mp hmem with rfl | hmem
    · have hsigma : c ≠ 'Σ' := by
        rintro rfl
        exact absurd hc (by decide)
      rw [if_neg hsigma, lowerChar_half hc]
      exact List.mem_cons_self ..
    · split
      next => exact List.mem_cons_of_mem _ (ih _ hmem)
      next => exact List.mem_append_right _ (ih _ hmem)

end LetterCase
end GraphSchema.Text

namespace GraphSchema.Label
open Text

theorem half_mem_normalize {c : Char} {cs : List Char} (hc : isHalf c = true) (hmem : c ∈ cs) :
    c ∈ normalize cs := by
  have hflat : c ∈ (splitWords cs).flatten := by
    simp [flatten_splitWords, hmem, not_blank_of_half hc]
  obtain ⟨w, hw, hcw⟩ := List.mem_flatten.mp hflat
  refine List.mem_flatMap.mpr ⟨w, hw, ?_⟩
  cases w with
  | nil => exact absurd hcw List.not_mem_nil
  | cons d ds =>
    rw [capitalize]
    rcases List.mem_cons.mp hcw with rfl | hcw
    · rw [upperChar_half hc]
      exact List.mem_cons_self ..
    · exact List.mem_append_right _ (half_mem_lowerAfter hc false hcw)

/-- The name of a label is whole if and only if the label is. -/
@[simp] theorem whole_identifier {label : String} :
    Whole (identifier label).toList ↔ Whole label.toList := by
  rw [toList_identifier]
  constructor
  · intro h c hc
    rw [Bool.eq_false_iff]
    intro hhalf
    exact absurd (h c (half_mem_normalize hhalf hc)) (by simp [hhalf])
  · intro h c hc
    rw [isHalf_eq_inRanges]
    exact not_inRanges_of_mem_normalize caseless_halves
      (fun d hd _ => isHalf_eq_inRanges d ▸ h d hd) hc

end GraphSchema.Label
