/-! Blank characters, and trimming and splitting text at them. -/
namespace GraphSchema.Text

/-- The separators and spaces of Unicode, and the control characters that end a line or a record. -/
def isBlank (c : Char) : Bool :=
  let n := c.toNat
  (9 ≤ n && n ≤ 13) || (28 ≤ n && n ≤ 32) || n == 0x85 || n == 0xa0 || n == 0x1680 ||
    (0x2000 ≤ n && n ≤ 0x200a) || n == 0x2028 || n == 0x2029 || n == 0x202f || n == 0x205f ||
    n == 0x3000

/-- White space in the sense of Unicode: blank, but none of the four record separators. -/
def isWhiteSpace (c : Char) : Bool :=
  isBlank c && !(28 ≤ c.toNat && c.toNat ≤ 31)

def trimLeft (drop : Char → Bool) (cs : List Char) : List Char := cs.dropWhile drop

def trimRight (drop : Char → Bool) : List Char → List Char
  | [] => []
  | c :: cs =>
    match trimRight drop cs with
    | [] => if drop c then [] else [c]
    | d :: ds => c :: d :: ds

def trim (drop : Char → Bool) (cs : List Char) : List Char := trimRight drop (trimLeft drop cs)

/-- The maximal runs of characters that are not blank. -/
def words : List Char → List (List Char)
  | [] => []
  | c :: cs =>
    if isBlank c then words cs
    else match cs with
      | [] => [[c]]
      | d :: _ =>
        if isBlank d then [c] :: words cs
        else match words cs with
          | [] => [[c]]
          | w :: ws => (c :: w) :: ws

theorem trimRight_idem (drop : Char → Bool) (cs : List Char) :
    trimRight drop (trimRight drop cs) = trimRight drop cs := by
  induction cs with
  | nil => rfl
  | cons c cs ih =>
    cases h : trimRight drop cs with
    | nil => by_cases hc : drop c <;> simp [trimRight, h, hc]
    | cons d ds =>
      rw [h] at ih
      have hc : trimRight drop (c :: cs) = c :: d :: ds := by simp [trimRight, h]
      rw [hc, trimRight, ih]

theorem trimRight_ne_of_drop {drop : Char → Bool} {c : Char} {cs ds : List Char}
    (h : trimRight drop cs = ds ++ [c]) : drop c = false := by
  induction cs generalizing ds with
  | nil => simp [trimRight] at h
  | cons b cs ih =>
    rw [trimRight] at h
    split at h
    · split at h
      · simp at h
      · obtain _ | ⟨d, ds⟩ := ds <;> simp_all
    · rename_i e es he
      obtain _ | ⟨d, ds⟩ := ds
      · simp at h
      · simp only [List.cons_append, List.cons.injEq] at h
        exact ih (he.trans h.2)

end GraphSchema.Text
