import GraphSchema.Text.CaseTable

/-! Upper and lower case of text by the full Unicode mappings: one character may become several. -/
namespace GraphSchema.Text

def mapChar (expansions : List (Nat × List Nat)) (runs : List CaseRun) (c : Char) : List Char :=
  match expansions.lookup c.toNat with
  | some ns => ns.map Char.ofNat
  | none =>
    match mapThrough runs c.toNat with
    | some n => [Char.ofNat n]
    | none => [c]

def upperChar : Char → List Char := mapChar upperExpansions upperRuns

def lowerChar : Char → List Char := mapChar lowerExpansions lowerRuns

def upper (cs : List Char) : List Char := cs.flatMap upperChar

def isCased (c : Char) : Bool := inRanges casedRanges c.toNat

def isCaseIgnorable (c : Char) : Bool := inRanges caseIgnorableRanges c.toNat

/-- The next character that is not ignored is a cased letter. -/
def meetsCased : List Char → Bool
  | [] => false
  | c :: cs => if isCaseIgnorable c then meetsCased cs else isCased c

/-- Lowers the rest of a text; `inWord` says that a cased letter came before, ignorable characters
apart. A capital sigma that ends a word takes its final form. -/
def lowerAfter (inWord : Bool) : List Char → List Char
  | [] => []
  | c :: cs =>
    let next := lowerAfter (if isCaseIgnorable c then inWord else isCased c) cs
    if c = 'Σ' then (if inWord && !meetsCased cs then 'ς' else 'σ') :: next
    else lowerChar c ++ next

def lower (cs : List Char) : List Char := lowerAfter false cs

/-- Lower case of the ASCII letters alone. -/
def lowerAscii (c : Char) : Char :=
  if 'A' ≤ c ∧ c ≤ 'Z' then Char.ofNat (c.toNat + 32) else c

end GraphSchema.Text
