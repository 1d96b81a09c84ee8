/-! Line breaks, and the lines of a text. -/
namespace GraphSchema.Text

/-- A character that ends a line by itself; a carriage return followed by a line feed is one
break. -/
def isLineBreak (c : Char) : Bool :=
  let n := c.toNat
  (10 ≤ n && n ≤ 13) || (28 ≤ n && n ≤ 30) || n == 0x85 || n == 0x2028 || n == 0x2029

/-- The lines of a text without their breaks; a break at the very end opens no further line. -/
def splitLines : List Char → List (List Char)
  | [] => []
  | '\r' :: '\n' :: cs => [] :: splitLines cs
  | c :: cs =>
    if isLineBreak c then [] :: splitLines cs
    else match splitLines cs with
      | [] => [[c]]
      | l :: ls => (c :: l) :: ls

/-- Lines joined by single line feeds. -/
def joinLines : List (List Char) → List Char
  | [] => []
  | [l] => l
  | l :: m :: ls => l ++ '\n' :: joinLines (m :: ls)

/-- Every kind of break that text files use becomes one line feed. -/
def unifyNewlines : List Char → List Char
  | [] => []
  | '\r' :: '\n' :: cs => '\n' :: unifyNewlines cs
  | '\r' :: cs => '\n' :: unifyNewlines cs
  | c :: cs => c :: unifyNewlines cs

theorem splitLines_of_no_break {l : List Char} (hne : l ≠ [])
    (h : ∀ c ∈ l, isLineBreak c = false) : splitLines l = [l] := by
  induction l with
  | nil => exact absurd rfl hne
  | cons c cs ih =>
    have hc : isLineBreak c = false := h c (by simp)
    have hcs : ∀ d ∈ cs, isLineBreak d = false := fun d hd => h d (by simp [hd])
    rw [splitLines]
    · obtain _ | ⟨d, ds⟩ := cs
      · simp [splitLines, hc]
      · rw [ih (by simp) hcs]
        simp [hc]
    · rintro ds rfl rfl
      exact absurd hc (by decide)

end GraphSchema.Text
