/-! Identifiers of the schema grammar: an ASCII letter or underscore, then letters, digits and
underscores. -/
namespace GraphSchema.Text

def isIdentifierStart (c : Char) : Bool :=
  c = '_' || ('A' ≤ c && c ≤ 'Z') || ('a' ≤ c && c ≤ 'z')

def isIdentifierPart (c : Char) : Bool := isIdentifierStart c || ('0' ≤ c && c ≤ '9')

def isIdentifier : List Char → Bool
  | [] => false
  | c :: cs => isIdentifierStart c && cs.all isIdentifierPart

/-- One line feed may stand behind an identifier. -/
def passesAsIdentifier (cs : List Char) : Bool :=
  isIdentifier (if cs.getLast? = some '\n' then cs.dropLast else cs)

theorem passesAsIdentifier_of_isIdentifier {cs : List Char} (h : isIdentifier cs = true) :
    passesAsIdentifier cs = true := by
  rw [passesAsIdentifier, if_neg, h]
  intro hl
  obtain _ | ⟨c, cs⟩ := cs
  · simp at hl
  · simp only [isIdentifier, Bool.and_eq_true, List.all_eq_true] at h
    obtain rfl | hm := List.mem_cons.1 (List.mem_of_getLast? hl)
    · exact absurd h.1 (by decide)
    · exact absurd (h.2 _ hm) (by decide)

end GraphSchema.Text
