/-! Code points as characters. A text may hold half of a surrogate pair on its own, which is no
character here. Each half is kept as the unassigned character that lies a fixed distance above it;
where one of these characters is read itself, the replacement character stands for it. -/
namespace GraphSchema.Text

def isHalfCode (n : Nat) : Bool := 0xd800 ≤ n && n < 0xe000

/-- How far above a half the character lies that stands for it. -/
def halfOffset : Nat := 0xd0000

/-- The character of a code point. -/
def charOf (n : Nat) : Char :=
  if isHalfCode n then Char.ofNat (halfOffset + n)
  else if isHalfCode (n - halfOffset) then '\ufffd'
  else Char.ofNat n

def isHalf (c : Char) : Bool := isHalfCode (c.toNat - halfOffset)

/-- The code point of a character, which for half of a pair is the half itself. -/
def codePoint (c : Char) : Nat := if isHalf c then c.toNat - halfOffset else c.toNat

theorem isHalfCode_iff {n : Nat} : isHalfCode n = true ↔ 0xd800 ≤ n ∧ n < 0xe000 := by
  simp [isHalfCode]

theorem toNat_charOf_of_half {n : Nat} (h : isHalfCode n = true) :
    (charOf n).toNat = halfOffset + n := by
  obtain ⟨hlow, hhigh⟩ := isHalfCode_iff.mp h
  have hvalid : (halfOffset + n).isValidChar := by
    refine .inr ⟨?_, ?_⟩ <;> rw [halfOffset] <;> omega
  rw [charOf, if_pos h, Char.ofNat, dif_pos hvalid]
  rfl

/-- Only a half is read as one. -/
@[simp] theorem isHalf_charOf (n : Nat) : isHalf (charOf n) = isHalfCode n := by
  by_cases h : isHalfCode n
  · rw [isHalf, toNat_charOf_of_half h, Nat.add_sub_cancel_left]
  · rw [charOf, if_neg h, Bool.eq_false_iff.mpr h]
    split
    next => decide
    next hn =>
      by_cases hvalid : n.isValidChar
      · rw [Char.ofNat, dif_pos hvalid]
        exact Bool.eq_false_iff.mpr hn
      · rw [Char.ofNat, dif_neg hvalid]
        decide

theorem codePoint_charOf {n : Nat} (h : isHalfCode n = true) : codePoint (charOf n) = n := by
  rw [codePoint, isHalf_charOf, if_pos h, toNat_charOf_of_half h, Nat.add_sub_cancel_left]

/-- A text without half of a pair on its own. -/
def Whole (cs : List Char) : Prop := ∀ c ∈ cs, isHalf c = false

instance : DecidablePred Whole :=
  fun cs => List.decidableBAll (fun c => isHalf c = false) cs

end GraphSchema.Text
