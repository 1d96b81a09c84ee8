import GraphSchema.Proofs.Text.Lines
import GraphSchema.Schema.Field
import GraphSchema.Text.Identifier

/-! Numbers, quoted text and every value that is no text are written in printable characters. A line
break is none of these, and neither is half of a surrogate pair. -/
namespace GraphSchema.Text

/-- A text of printable characters. -/
def Printable (cs : List Char) : Prop := ∀ c ∈ cs, isPrintable c = true

section Printing
variable {c : Char} {cs : List Char}

theorem not_break_of_printable (h : isPrintable c = true) : isLineBreak c = false := by
  have hbreaks : ∀ n ∈ [10, 11, 12, 13, 28, 29, 30, 0x85, 0x2028, 0x2029],
      inRanges unprintableRanges n = true := by decide +kernel
  rw [Bool.eq_false_iff]
  intro hbreak
  have hmem : c.toNat ∈ [10, 11, 12, 13, 28, 29, 30, 0x85, 0x2028, 0x2029] := by
    simp only [isLineBreak, Bool.or_eq_true, Bool.and_eq_true, decide_eq_true_eq,
      beq_iff_eq] at hbreak
    simp only [List.mem_cons, List.not_mem_nil, or_false]
    omega
  simp [isPrintable, hbreaks _ hmem] at h

/-- The characters that stand for halves are unassigned. -/
theorem not_half_of_printable (h : isPrintable c = true) : isHalf c = false := by
  have hrange : (0x3134b, 0xe00ff) ∈ unprintableRanges := by decide +kernel
  rw [Bool.eq_false_iff]
  intro hhalf
  obtain ⟨hlow, hhigh⟩ := isHalfCode_iff.mp hhalf
  rw [halfOffset] at hlow hhigh
  have hunprintable : inRanges unprintableRanges c.toNat = true :=
    inRanges_iff.mpr ⟨_, hrange, by omega, by omega⟩
  simp [isPrintable, hunprintable] at h

/-- From the blank to the tilde. -/
theorem printable_of_ascii (hlow : 32 ≤ c.toNat) (hhigh : c.toNat ≤ 126) :
    isPrintable c = true := by
  have hapart : ∀ r ∈ unprintableRanges, r.2 < 32 ∨ 126 < r.1 := by decide +kernel
  rw [isPrintable, Bool.not_eq_true', Bool.eq_false_iff]
  intro hunprintable
  obtain ⟨r, hr, hfirst, hlast⟩ := inRanges_iff.mp hunprintable
  have hr := hapart r hr
  omega

theorem Printable.unbroken (h : Printable cs) : Unbroken cs :=
  fun c hc => not_break_of_printable (h c hc)

theorem Printable.whole (h : Printable cs) : Whole cs :=
  fun c hc => not_half_of_printable (h c hc)

theorem Printable.subset {ds : List Char} (h : Printable ds) (hcs : cs ⊆ ds) : Printable cs :=
  fun c hc => h c (hcs hc)

@[simp] theorem printable_nil : Printable [] := fun _ h => absurd h List.not_mem_nil

@[simp] theorem printable_cons : Printable (c :: cs) ↔ isPrintable c = true ∧ Printable cs :=
  List.forall_mem_cons

@[simp] theorem printable_append {ds : List Char} :
    Printable (cs ++ ds) ↔ Printable cs ∧ Printable ds := List.forall_mem_append

/-- A way to decide that the words and marks of a layout are printable. -/
theorem printable_of_all (h : (cs.all fun c => 32 ≤ c.toNat && c.toNat ≤ 126) = true) :
    Printable cs := by
  intro c hc
  have hbounds := List.all_eq_true.mp h c hc
  simp only [Bool.and_eq_true, decide_eq_true_eq] at hbounds
  exact printable_of_ascii hbounds.1 hbounds.2

end Printing

/-- The characters of an identifier lie between the zero and the small z. -/
theorem bounds_of_isIdentifier {cs : List Char} (h : isIdentifier cs = true) :
    ∀ c ∈ cs, '0' ≤ c ∧ c ≤ 'z' := by
  have hpart {c : Char} (hc : isIdentifierPart c = true) : '0' ≤ c ∧ c ≤ 'z' := by
    simp only [isIdentifierPart, isIdentifierStart, Bool.or_eq_true, Bool.and_eq_true,
      decide_eq_true_eq] at hc
    rcases hc with ((rfl | ⟨hl, hu⟩) | ⟨hl, hu⟩) | ⟨hl, hu⟩
    · decide
    · exact ⟨Nat.le_trans (by decide) hl, Nat.le_trans hu (by decide)⟩
    · exact ⟨Nat.le_trans (by decide) hl, hu⟩
    · exact ⟨hl, Nat.le_trans hu (by decide)⟩
  cases cs with
  | nil => exact fun c hc => absurd hc List.not_mem_nil
  | cons c cs =>
    simp only [isIdentifier, Bool.and_eq_true, List.all_eq_true] at h
    refine List.forall_mem_cons.mpr ⟨hpart ?_, fun d hd => hpart (h.2 d hd)⟩
    simp [isIdentifierPart, h.1]

theorem not_blank_of_isIdentifier {cs : List Char} (h : isIdentifier cs = true) :
    ∀ c ∈ cs, isBlank c = false := by
  intro c hc
  obtain ⟨hlow, hhigh⟩ := bounds_of_isIdentifier h c hc
  exact not_blank_of_range (by decide) (by decide) hlow hhigh

theorem printable_of_isIdentifier {cs : List Char} (h : isIdentifier cs = true) :
    Printable cs := by
  intro c hc
  obtain ⟨hlow, hhigh⟩ := bounds_of_isIdentifier h c hc
  exact printable_of_ascii (Nat.le_trans (by decide) hlow) (Nat.le_trans hhigh (by decide))

theorem unbroken_of_isIdentifier {cs : List Char} (h : isIdentifier cs = true) : Unbroken cs :=
  unbroken_of_not_blank (not_blank_of_isIdentifier h)

theorem printable_toDigits (n : Nat) : Printable (Nat.toDigits 10 n) := by
  intro c hc
  have hdigit := Nat.isDigit_of_mem_toDigits (by decide) (by decide) hc
  simp only [Char.isDigit, Bool.and_eq_true, decide_eq_true_eq] at hdigit
  obtain ⟨hlow, hhigh⟩ := hdigit
  have hlow : 48 ≤ c.toNat := hlow
  have hhigh : c.toNat ≤ 57 := hhigh
  exact printable_of_ascii (by omega) (by omega)

section Quoting

theorem printable_hex (width n : Nat) : Printable (hex width n) := by
  have hdigit : ∀ d < 16, 32 ≤ (hexDigit d).toNat ∧ (hexDigit d).toNat ≤ 126 := by decide
  induction width generalizing n with
  | zero => exact printable_nil
  | succ w ih =>
    obtain ⟨hlow, hhigh⟩ := hdigit _ (Nat.mod_lt n (by decide))
    rw [hex, printable_append, printable_cons]
    exact ⟨ih (n / 16), printable_of_ascii hlow hhigh, printable_nil⟩

theorem printable_escapeCode (n : Nat) : Printable (escapeCode n) := by
  have hescape {c : Char} (hc : Printable ['\\', c]) (width : Nat) :
      Printable ('\\' :: c :: hex width n) :=
    printable_append.mpr ⟨hc, printable_hex width n⟩
  unfold escapeCode
  split
  next => exact hescape (printable_of_all (by decide)) 2
  next =>
    split
    next => exact hescape (printable_of_all (by decide)) 4
    next => exact hescape (printable_of_all (by decide)) 8

theorem printable_escapeIn {mark : Char} (hmark : isPrintable mark = true) (c : Char) :
    Printable (escapeIn mark c) := by
  have hslash : isPrintable '\\' = true := printable_of_ascii (by decide) (by decide)
  unfold escapeIn
  split
  next h =>
    rcases Bool.or_eq_true_iff.mp h with h | h
    · rw [decide_eq_true_eq.mp h]
      exact printable_cons.mpr ⟨hslash, printable_cons.mpr ⟨hmark, printable_nil⟩⟩
    · rw [decide_eq_true_eq.mp h]
      exact printable_of_all (by decide)
  next =>
    split
    next => exact printable_of_all (by decide)
    next =>
      split
      next => exact printable_of_all (by decide)
      next =>
        split
        next => exact printable_of_all (by decide)
        next =>
          split
          next h => exact printable_cons.mpr ⟨h, printable_nil⟩
          next => exact printable_escapeCode _

theorem printable_quote (cs : List Char) : Printable (quote cs) := by
  have hmark : isPrintable (quoteMark cs) = true := by
    unfold quoteMark
    split <;> exact printable_of_ascii (by decide) (by decide)
  rw [quote, List.cons_append, printable_cons, printable_append, printable_cons]
  refine ⟨hmark, fun d hd => ?_, hmark, printable_nil⟩
  obtain ⟨c, -, hd⟩ := List.mem_flatMap.mp hd
  exact printable_escapeIn hmark c d hd

end Quoting

theorem printable_int (n : Int) : Printable (toString n).toList := by
  have hnat (k : Nat) : Printable k.repr.toList := by
    rw [Nat.repr_eq_ofList_toDigits, String.toList_ofList]
    exact printable_toDigits k
  rw [Int.toString_eq_repr, Int.repr_eq_if]
  split
  next => exact hnat _
  next =>
    rw [String.toList_append, printable_append]
    exact ⟨printable_of_all (by decide), hnat _⟩

end GraphSchema.Text

namespace GraphSchema
open Text

namespace Binary64

theorem printable_zeros (n : Nat) : Printable (zeros n) := by
  intro c hc
  rw [List.eq_of_mem_replicate hc]
  exact printable_of_ascii (by decide) (by decide)

theorem printable_shortestDigits (m : Nat) (e : Int) : Printable (shortestDigits m e).1 := by
  intro c hc
  have hmem := (List.dropWhile_sublist _).subset (List.mem_reverse.mp hc)
  exact printable_toDigits _ c (List.mem_reverse.mp hmem)

theorem printable_layOut {digits : List Char} (h : Printable digits) (e : Int) :
    Printable (layOut digits e) := by
  have hmark : Printable ['0', '.', 'e', '-', '+'] := printable_of_all (by decide)
  have htake (k : Nat) : Printable (digits.take k) := h.subset (List.take_subset k digits)
  have hdrop (k : Nat) : Printable (digits.drop k) := h.subset (List.drop_subset k digits)
  unfold layOut
  split
  next =>
    dsimp only
    split
    next =>
      simp only [List.cons_append, printable_cons, printable_append]
      exact ⟨hmark _ (by decide), hmark _ (by decide), printable_zeros _, h⟩
    next =>
      split
      next =>
        simp only [printable_cons, printable_append]
        exact ⟨⟨h, printable_zeros _⟩, hmark _ (by decide), hmark _ (by decide), printable_nil⟩
      next =>
        simp only [printable_cons, printable_append]
        exact ⟨htake _, hmark _ (by decide), hdrop _⟩
  next =>
    have hsign : isPrintable (if e < 0 then '-' else '+') = true := by
      split <;> exact printable_of_ascii (by decide) (by decide)
    have hpoint : Printable (if digits.length = 1 then [] else '.' :: digits.drop 1) := by
      split
      next => exact printable_nil
      next => exact printable_cons.mpr ⟨hmark _ (by decide), hdrop 1⟩
    simp only [printable_cons, printable_append]
    exact ⟨⟨⟨htake 1, hpoint⟩, hmark _ (by decide), hsign, printable_zeros _⟩,
      printable_toDigits _⟩

theorem printable_text (x : Binary64) : Printable x.text := by
  cases x with
  | nan => exact printable_of_all (by decide)
  | infinite negative => cases negative <;> exact printable_of_all (by decide)
  | finite negative m e =>
    have hsign : Printable (if negative then ['-'] else []) := by
      cases negative <;> exact printable_of_all (by decide)
    unfold text
    simp only
    split
    next => exact printable_append.mpr ⟨hsign, printable_of_all (by decide)⟩
    next =>
      exact printable_append.mpr ⟨hsign, printable_layOut (printable_shortestDigits m e) _⟩

end Binary64

namespace Value

mutual

theorem printable_literal : (v : Value) → Printable v.literal
  | null => by unfold literal; exact printable_of_all (by decide)
  | bool b => by cases b <;> unfold literal <;> exact printable_of_all (by decide)
  | int n => by unfold literal; exact printable_int n
  | float x => by unfold literal; exact x.printable_text
  | text s => by unfold literal; exact printable_quote _
  | list items => by
    have hmarks : Printable ['[', ']'] := printable_of_all (by decide)
    unfold literal
    simp only [List.cons_append, printable_cons, printable_append]
    exact ⟨hmarks _ (by decide), printable_literals items, hmarks _ (by decide), printable_nil⟩
  | object fields => by
    have hmarks : Printable ['\x7b', '\x7d'] := printable_of_all (by decide)
    unfold literal
    simp only [List.cons_append, printable_cons, printable_append]
    exact ⟨hmarks _ (by decide), printable_fieldLiterals fields, hmarks _ (by decide),
      printable_nil⟩

theorem printable_literals : (vs : List Value) → Printable (literals vs)
  | [] => printable_nil
  | [v] => by unfold literals; exact printable_literal v
  | v :: w :: vs => by
    have hcomma : Printable ", ".toList := printable_of_all (by decide)
    unfold literals
    simp only [printable_append]
    exact ⟨⟨printable_literal v, hcomma⟩, printable_literals (w :: vs)⟩

theorem printable_fieldLiterals : (fs : List (String × Value)) → Printable (fieldLiterals fs)
  | [] => printable_nil
  | [(k, v)] => by
    have hcolon : Printable ": ".toList := printable_of_all (by decide)
    unfold fieldLiterals
    simp only [printable_append]
    exact ⟨⟨printable_quote _, hcolon⟩, printable_literal v⟩
  | (k, v) :: f :: fs => by
    have hcolon : Printable ": ".toList := printable_of_all (by decide)
    have hcomma : Printable ", ".toList := printable_of_all (by decide)
    unfold fieldLiterals
    simp only [printable_append]
    exact ⟨⟨⟨⟨printable_quote _, hcolon⟩, printable_literal v⟩, hcomma⟩,
      printable_fieldLiterals (f :: fs)⟩

end

/-- A text on its own stands for itself. -/
theorem toText_cases (v : Value) : (∃ s, v = text s ∧ v.toText = s) ∨ Printable v.toText.toList := by
  cases v with
  | text s => exact .inl ⟨s, rfl, rfl⟩
  | _ =>
    rw [toText, String.toList_ofList]
    · exact .inr (printable_literal _)
    · simp

theorem shown_cases (v : Value) : (∃ s, v = text s ∧ v.shown = s) ∨ Printable v.shown.toList := by
  unfold shown
  split
  next b => exact .inr (by cases b <;> exact printable_of_all (by decide))
  next x =>
    split
    next => exact .inr (printable_int _)
    next => exact .inr ((toText_cases (float x)).resolve_left (by simp))
  next => exact toText_cases v

/-- A text on its own stands for itself; every other value is one line as it is. -/
def OneLine : Value → Prop
  | text s => Unbroken s.toList
  | _ => True

theorem OneLine.toText {v : Value} (h : v.OneLine) : Unbroken v.toText.toList := by
  rcases toText_cases v with ⟨s, rfl, hs⟩ | hprintable
  · exact hs ▸ h
  · exact hprintable.unbroken

theorem OneLine.shown {v : Value} (h : v.OneLine) : Unbroken v.shown.toList := by
  rcases shown_cases v with ⟨s, rfl, hs⟩ | hprintable
  · exact hs ▸ h
  · exact hprintable.unbroken

end Value
end GraphSchema
