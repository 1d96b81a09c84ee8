import GraphSchema.Proofs.Graph.Integrity
import GraphSchema.Proofs.Graph.Validity
import GraphSchema.Proofs.Schema.References
import GraphSchema.Proofs.Text.OneLine

/-! A document read back line by line: its blocks are the declarations of its outline, in order. -/
namespace GraphSchema

namespace Text

/-- A line that opens a block begins with neither a blank nor a number sign and ends in a brace. -/
def opensBlock (line : List Char) : Bool :=
  match line with
  | [] => false
  | c :: _ => !isBlank c && c ≠ '#' && line.getLast? = some '\x7b'

/-- What a document consists of: single lines and blocks. -/
inductive Item where
  | line (text : List Char)
  | block (opening : List Char) (body : List (List Char))
  | unclosed (opening : List Char) (body : List (List Char))
  deriving DecidableEq, Repr

/-- Cuts lines into items; inside a block every line belongs to it up to the first that is a closing
brace. -/
def readItems : Option (List Char × List (List Char)) → List (List Char) → List Item
  | none, [] => []
  | some (opening, body), [] => [.unclosed opening body]
  | none, l :: ls =>
    if opensBlock l then readItems (some (l, [])) ls else .line l :: readItems none ls
  | some (opening, body), l :: ls =>
    if l = ['\x7d'] then .block opening body :: readItems none ls
    else readItems (some (opening, body ++ [l])) ls

def Item.opening? : Item → Option (List Char)
  | .block opening _ => some opening
  | _ => none

/-- The lines that open the blocks of a document. -/
def openings (document : String) : List (List Char) :=
  (readItems none (splitLines document.toList)).filterMap Item.opening?

/-- Lines that are read as these items wherever they stand outside a block. -/
def Reads (ls : List (List Char)) (items : List Item) : Prop :=
  ∀ rest, readItems none (ls ++ rest) = items ++ readItems none rest

section Reading
variable {l opening : List Char} {ls ms body : List (List Char)} {is js : List Item}

theorem Reads.append (hl : Reads ls is) (hm : Reads ms js) : Reads (ls ++ ms) (is ++ js) := by
  intro rest
  rw [List.append_assoc, hl, hm, List.append_assoc]

theorem reads_line (h : opensBlock l = false) : Reads [l] [.line l] := by
  intro rest
  rw [List.singleton_append, readItems, if_neg (by simp [h])]
  rfl

theorem reads_lines (h : ∀ l ∈ ls, opensBlock l = false) : Reads ls (ls.map .line) := by
  induction ls with
  | nil => exact fun _ => rfl
  | cons l ls ih =>
    obtain ⟨hl, hls⟩ := List.forall_mem_cons.mp h
    exact (reads_line hl).append (ih hls)

theorem reads_block (hopening : opensBlock opening = true) (hbody : ∀ l ∈ body, l ≠ ['\x7d']) :
    Reads (opening :: body ++ [['\x7d']]) [.block opening body] := by
  have hinside (before : List (List Char)) (rest : List (List Char)) :
      readItems (some (opening, before)) (body ++ ['\x7d'] :: rest) =
        .block opening (before ++ body) :: readItems none rest := by
    induction body generalizing before with
    | nil => rw [List.nil_append, readItems, if_pos rfl, List.append_nil]
    | cons l ls ih =>
      obtain ⟨hl, hls⟩ := List.forall_mem_cons.mp hbody
      rw [List.cons_append, readItems, if_neg hl, ih hls, List.append_assoc, List.singleton_append]
  intro rest
  rw [List.cons_append, List.cons_append, readItems, if_pos hopening, List.append_assoc]
  exact hinside [] rest

end Reading

/-- Lines between two that are not empty, with no two empty ones in a row. -/
structure Framed (ls : List (List Char)) : Prop where
  tight : Tight ls
  first : ∃ l ∈ ls.head?, l ≠ []
  last : ∃ l ∈ ls.getLast?, l ≠ []

theorem framed_of_ne_nil {ls : List (List Char)} (hls : ls ≠ []) (h : ∀ l ∈ ls, l ≠ []) :
    Framed ls := by
  refine ⟨?_, ⟨ls.head hls, List.head?_eq_some_head hls, h _ (List.head_mem hls)⟩,
    ⟨ls.getLast hls, List.getLast?_eq_some_getLast hls, h _ (List.getLast_mem hls)⟩⟩
  rw [← List.append_nil ls]
  exact Tight.append h List.IsChain.nil

end Text

open Text

/-- A line as the document has it. -/
def endTrimmed (l : String) : List Char := trimRight isBlank l.toList

section Spacing
variable {gs hs : List (List String)}

theorem spaced_append (hg : gs ≠ []) (hh : hs ≠ []) :
    spaced (gs ++ hs) = spaced gs ++ "" :: spaced hs := by
  induction gs with
  | nil => exact absurd rfl hg
  | cons g gs ih =>
    cases gs with
    | nil => exact spaced_cons g hh
    | cons k ks =>
      rw [List.cons_append, spaced_cons g (by simp), ih (List.cons_ne_nil k ks),
        spaced_cons g (List.cons_ne_nil k ks), List.append_assoc, List.cons_append]

theorem first_spaced {g : List String} (h : ∃ l ∈ (g.map endTrimmed).head?, l ≠ []) :
    ∃ l ∈ ((spaced (g :: gs)).map endTrimmed).head?, l ≠ [] := by
  obtain ⟨l, hl, hne⟩ := h
  cases gs with
  | nil => exact ⟨l, hl, hne⟩
  | cons k ks =>
    refine ⟨l, ?_, hne⟩
    rw [spaced, List.map_append]
    exact List.mem_head?_append_of_mem_head? hl

theorem tight_spaced (h : ∀ g ∈ gs, Framed (g.map endTrimmed)) :
    Tight ((spaced gs).map endTrimmed) := by
  induction gs with
  | nil => exact List.isChain_singleton _
  | cons g gs ih =>
    obtain ⟨hg, hgs⟩ := List.forall_mem_cons.mp h
    cases gs with
    | nil => exact hg.tight
    | cons k ks =>
      have hrest := ih hgs
      obtain ⟨l, hl, hne⟩ := first_spaced (hgs k (List.mem_cons_self ..)).first
      obtain ⟨ms, hms⟩ := List.head?_eq_some_iff.mp hl
      rw [spaced, List.map_append, List.map_cons]
      refine List.isChain_append.mpr ⟨hg.tight, ?_, ?_⟩
      · rw [hms] at hrest ⊢
        exact List.isChain_cons_cons.mpr ⟨Or.inr hne, hrest⟩
      · obtain ⟨m, hm, hlast⟩ := hg.last
        rintro x hx - -
        obtain rfl : m = x := Option.some.inj (hm.symm.trans hx)
        exact Or.inl hlast

end Spacing

namespace Outline

/-- If no raw line breaks and the declarations are framed, the document has its declarations one by
one, an empty line between two of them. -/
theorem splitLines_text_eq {o : Outline} (hraw : ∀ l ∈ o.rawLines, Unbroken l.toList)
    (hframed : ∀ d ∈ o.declarations, Framed (d.lines.map endTrimmed)) :
    splitLines o.text.toList =
      (spaced (scalarLines :: o.declarations.map Declaration.lines)).map endTrimmed := by
  have hlines : (o.rawLines.flatMap fun l => splitLines (l.toList ++ ['\n'])).map
      (trimRight isBlank) = o.rawLines.map endTrimmed := by
    have hsingle : o.rawLines.flatMap (fun l => splitLines (l.toList ++ ['\n'])) =
        o.rawLines.flatMap fun l => [l.toList] :=
      List.flatMap_congr fun l hl => splitLines_line (hraw l hl) []
    rw [hsingle, ← List.map_eq_flatMap, List.map_map]
    rfl
  have hspaced : spaced (scalarLines :: o.declarations.map Declaration.lines) =
      fixedLines ++ "" :: spaced (o.generated.map Declaration.lines ++
        [rootDeclaration.lines]) := by
    rw [declarations, List.append_assoc, List.map_append, ← List.cons_append,
      spaced_append (List.cons_ne_nil _ _) (by simp), List.map_append]
    rfl
  have htight : Tight ((spaced (scalarLines :: o.declarations.map Declaration.lines)).map
      endTrimmed) := by
    refine tight_spaced (List.forall_mem_cons.mpr ⟨?_, ?_⟩)
    · exact framed_of_ne_nil (by decide) (by decide)
    · intro g hg
      obtain ⟨d, hd, rfl⟩ := List.mem_map.mp hg
      exact hframed d hd
  rw [← squeeze_eq_self htight, splitLines_text, hlines, hspaced, rawLines]
  simp only [List.map_append, List.map_cons]
  exact squeeze_doubled _ _

end Outline

/-- A line inside a block: it begins with a space and is not blank. -/
structure Inner (l : String) : Prop where
  unbroken : Unbroken l.toList
  head : l.toList.head? = some ' '
  solid : ∃ c ∈ l.toList, isBlank c = false

theorem Inner.head?_endTrimmed {l : String} (h : Inner l) : (endTrimmed l).head? = some ' ' := by
  obtain ⟨rest, hrest⟩ : endTrimmed l <+: l.toList := trimRight_starts
  obtain ⟨c, cs, hcs⟩ := List.exists_cons_of_ne_nil (trimRight_ne_nil h.solid)
  have hline : endTrimmed l = c :: cs := hcs
  have hhead := h.head
  rw [← hrest, hline] at hhead
  rw [hline]
  exact hhead

namespace FieldDecl
variable {f : FieldDecl}

/-- No line of the field breaks, and the remark is not blank. -/
structure Clean (f : FieldDecl) : Prop where
  text : Unbroken f.text.toList
  remark : ∀ r ∈ f.remark, Unbroken r.toList ∧ ∃ c ∈ r.toList, isBlank c = false

theorem Clean.inner (h : f.Clean) : ∀ l ∈ f.lines, Inner l := by
  have hindented {l : String} (hl : Unbroken l.toList)
      (hsolid : ∃ c ∈ l.toList, isBlank c = false) : Inner (indent ++ l) := by
    have hindent : Unbroken indent.toList := by decide
    obtain ⟨c, hc, hblank⟩ := hsolid
    refine ⟨?_, ?_, c, ?_, hblank⟩
    · rw [String.toList_append, unbroken_append]
      exact ⟨hindent, hl⟩
    · simp [indent]
    · rw [String.toList_append]
      exact List.mem_append_right _ hc
  intro l hl
  obtain ⟨m, hm, rfl⟩ := List.mem_map.mp hl
  rcases List.mem_append.mp hm with hm | hm
  · obtain ⟨hbroken, hsolid⟩ := h.remark m (Option.mem_toList.mp hm)
    exact hindented hbroken hsolid
  · obtain rfl := List.mem_singleton.mp hm
    refine hindented h.text ⟨':', ?_, by decide⟩
    simp [FieldDecl.text]

end FieldDecl

namespace Heading

theorem Plain.opens {h : Heading} (hh : h.Plain) : opensBlock h.text.toList = true := by
  cases hname : h.name? with
  | none =>
    obtain rfl := eq_schema_of_name? hname
    decide
  | some name =>
    obtain ⟨word, hword, rest, -, htext⟩ := toList_text hh hname
    have hlast : h.text.toList.getLast? = some '\x7b' := by
      rw [htext]
      exact List.getLast?_concat
    have hfirst : ∀ w ∈ ["type ", "input ", "interface "], ∃ c cs, w.toList = c :: cs ∧
        isBlank c = false ∧ c ≠ '#' := by
      simp only [List.forall_mem_cons]
      exact ⟨⟨'t', "ype ".toList, rfl, by decide, by decide⟩,
        ⟨'i', "nput ".toList, rfl, by decide, by decide⟩,
        ⟨'i', "nterface ".toList, rfl, by decide, by decide⟩, by simp⟩
    obtain ⟨c, cs, hcs, hblank, hsign⟩ := hfirst word hword
    rw [hcs] at htext
    have hcons : h.text.toList = c :: (cs ++ (name.toList ++ ' ' :: rest) ++ ['\x7b']) := htext
    unfold opensBlock
    rw [hlast, hcons]
    simp [hblank, hsign]

end Heading

namespace Declaration
variable {d : Declaration}

/-- The items as which a declaration is read back. -/
def items (d : Declaration) : List Item :=
  d.remarks.map (fun r => .line r.toList) ++ [.block d.heading.text.toList (d.body.map endTrimmed)]

theorem openings_items (d : Declaration) :
    d.items.filterMap Item.opening? = [d.heading.text.toList] := by
  have hremarks : ∀ i ∈ d.remarks.map fun r => Item.line r.toList, i.opening? = none := by
    intro i hi
    obtain ⟨r, -, rfl⟩ := List.mem_map.mp hi
    rfl
  rw [items, List.filterMap_append, List.filterMap_eq_nil_iff.mpr hremarks]
  rfl

/-- Every line of the declaration is one line of the document, and its remarks stand outside. -/
structure Clean (d : Declaration) : Prop where
  remarks : ∀ r ∈ d.remarks, Unbroken r.toList ∧ r.toList.head? = some '#' ∧
    endTrimmed r = r.toList
  heading : d.heading.Plain
  fields : ∀ f ∈ d.fields, f.Clean
  groups : d.groups.length ≤ 1 ∨ ∀ g ∈ d.groups, g ≠ []

theorem Clean.body (h : d.Clean) : ∀ l ∈ d.body, l = "" ∨ Inner l := by
  intro l hl
  refine (mem_of_mem_spaced hl).imp_right fun ⟨ls, hls, hl⟩ => ?_
  obtain ⟨g, hg, rfl⟩ := List.mem_map.mp hls
  obtain ⟨f, hf, hl⟩ := List.mem_flatMap.mp hl
  exact (h.fields f (List.mem_flatten.mpr ⟨g, hg, hf⟩)).inner l hl

theorem Clean.unbroken (h : d.Clean) : ∀ l ∈ d.lines, Unbroken l.toList := by
  intro l hl
  simp only [lines, List.append_assoc, List.mem_append, List.cons_append, List.mem_cons,
    List.not_mem_nil, or_false] at hl
  rcases hl with hl | rfl | hl | rfl
  · exact (h.remarks l hl).1
  · exact h.heading.unbroken_text
  · rcases h.body l hl with rfl | hinner
    · exact unbroken_nil
    · exact hinner.unbroken
  · decide

/-- Within a group no line is empty, and groups that stand next to another are not empty. -/
theorem Clean.tight_body (h : d.Clean) : Tight (d.body.map endTrimmed) := by
  have hgroup : ∀ g ∈ d.groups, ∀ l ∈ (g.flatMap FieldDecl.lines).map endTrimmed, l ≠ [] := by
    intro g hg l hl
    obtain ⟨m, hm, rfl⟩ := List.mem_map.mp hl
    obtain ⟨f, hf, hm⟩ := List.mem_flatMap.mp hm
    have hinner := (h.fields f (List.mem_flatten.mpr ⟨g, hg, hf⟩)).inner m hm
    exact trimRight_ne_nil hinner.solid
  rcases h.groups with hlength | hgroups
  · unfold Declaration.body
    rcases hg : d.groups with _ | ⟨g, _ | ⟨k, ks⟩⟩
    · exact List.isChain_singleton _
    · rw [← List.append_nil (List.map endTrimmed _)]
      exact Tight.append (hgroup g (hg ▸ List.mem_cons_self ..)) List.IsChain.nil
    · simp [hg] at hlength
  · refine tight_spaced fun ls hls => ?_
    obtain ⟨g, hg, rfl⟩ := List.mem_map.mp hls
    obtain ⟨f, fs, rfl⟩ := List.exists_cons_of_ne_nil (hgroups g hg)
    exact framed_of_ne_nil (by simp [FieldDecl.lines]) (hgroup _ hg)

theorem map_lines (h : d.Clean) : d.lines.map endTrimmed =
    d.remarks.map String.toList ++
      (d.heading.text.toList :: d.body.map endTrimmed ++ [['\x7d']]) := by
  have hremarks : d.remarks.map endTrimmed = d.remarks.map String.toList :=
    List.map_congr_left fun r hr => (h.remarks r hr).2.2
  have hheading : endTrimmed d.heading.text = d.heading.text.toList := h.heading.trimRight_text
  rw [lines, List.append_assoc, List.map_append, List.cons_append, List.map_cons, List.map_append,
    hremarks, hheading]
  rfl

theorem Clean.framed (h : d.Clean) : Framed (d.lines.map endTrimmed) := by
  have hremark : ∀ r ∈ d.remarks, r.toList ≠ [] := by
    intro r hr hnil
    have hhead := (h.remarks r hr).2.1
    simp [hnil] at hhead
  have hheading : d.heading.text.toList ≠ [] := by
    intro hnil
    have hopens := h.heading.opens
    simp [hnil, opensBlock] at hopens
  rw [map_lines h]
  constructor
  case tight =>
    refine Tight.append ?_ ((h.tight_body.cons hheading).concat (by decide))
    intro l hl
    obtain ⟨r, hr, rfl⟩ := List.mem_map.mp hl
    exact hremark r hr
  case first =>
    cases hr : d.remarks with
    | nil => exact ⟨_, rfl, hheading⟩
    | cons r rs => exact ⟨_, rfl, hremark r (hr ▸ List.mem_cons_self ..)⟩
  case last =>
    refine ⟨['\x7d'], ?_, by decide⟩
    rw [List.getLast?_append_of_ne_nil _ (by simp)]
    exact List.getLast?_concat

theorem Clean.reads (h : d.Clean) : Reads (d.lines.map endTrimmed) d.items := by
  rw [map_lines h, items]
  refine Reads.append ?_ (reads_block h.heading.opens ?_)
  · have hlines : ∀ l ∈ d.remarks.map String.toList, opensBlock l = false := by
      intro l hl
      obtain ⟨r, hr, rfl⟩ := List.mem_map.mp hl
      obtain ⟨cs, hcs⟩ := List.head?_eq_some_iff.mp (h.remarks r hr).2.1
      simp [hcs, opensBlock]
    have hreads := reads_lines hlines
    rwa [List.map_map] at hreads
  · intro l hl hclosing
    obtain ⟨m, hm, rfl⟩ := List.mem_map.mp hl
    rcases h.body m hm with rfl | hinner
    · exact absurd hclosing (by decide)
    · have hhead := hinner.head?_endTrimmed
      rw [hclosing] at hhead
      exact absurd hhead (by decide)

end Declaration

theorem reads_spaced {gs : List (List String)} {iss : List (List Item)}
    (h : List.Forall₂ (fun g is => Reads (g.map endTrimmed) is) gs iss) (hne : gs ≠ []) :
    Reads ((spaced gs).map endTrimmed) ([Item.line []].intercalate iss) := by
  induction h with
  | nil => exact absurd rfl hne
  | cons hg hgs ih =>
    cases hgs with
    | nil =>
      rw [List.intercalate_singleton]
      exact hg
    | cons hk hks =>
      have hrest := ih (List.cons_ne_nil _ _)
      rw [spaced, List.map_append, List.map_cons, List.intercalate_cons_cons, List.append_assoc]
      exact hg.append ((reads_line rfl).append hrest)

theorem openings_intercalate (iss : List (List Item)) :
    ([Item.line []].intercalate iss).filterMap Item.opening? =
      iss.flatMap (List.filterMap Item.opening?) := by
  induction iss with
  | nil => rfl
  | cons is iss ih =>
    cases iss with
    | nil => rw [List.intercalate_singleton, List.flatMap_singleton]
    | cons js jss =>
      have hempty : [Item.line []].filterMap Item.opening? = [] := rfl
      rw [List.intercalate_cons_cons, List.filterMap_append, List.filterMap_append, hempty, ih,
        List.append_nil]
      rfl

namespace Outline
variable {o : Outline}

theorem of_mem_rawLines {l : String} (hl : l ∈ o.rawLines) :
    l = "" ∨ l ∈ scalarLines ∨ ∃ d ∈ o.declarations, l ∈ d.lines := by
  rcases List.mem_append.mp hl with hl | hl
  · refine (mem_of_mem_spaced hl).imp_right fun ⟨g, hg, hl⟩ => ?_
    rcases List.mem_cons.mp hg with rfl | hg
    · exact Or.inl hl
    · obtain ⟨d, hd, rfl⟩ := List.mem_map.mp hg
      exact Or.inr ⟨d, List.mem_append_left _ (List.mem_append_left _ hd), hl⟩
  · rw [List.mem_cons, List.mem_cons] at hl
    rcases hl with rfl | rfl | hl
    · exact Or.inl rfl
    · exact Or.inl rfl
    · refine (mem_of_mem_spaced hl).imp_right fun ⟨g, hg, hl⟩ => Or.inr ?_
      rcases List.mem_append.mp hg with hg | hg
      · obtain ⟨d, hd, rfl⟩ := List.mem_map.mp hg
        exact ⟨d, List.mem_append_left _ (List.mem_append_right _ hd), hl⟩
      · obtain rfl := List.mem_singleton.mp hg
        exact ⟨_, List.mem_append_right _ (List.mem_singleton.mpr rfl), hl⟩

/-- A document of clean declarations is read back as the scalars and these declarations. -/
theorem readItems_text (h : ∀ d ∈ o.declarations, d.Clean) :
    readItems none (splitLines o.text.toList) = [Item.line []].intercalate
      (scalarLines.map (fun l => .line l.toList) :: o.declarations.map Declaration.items) := by
  have hscalars : ∀ l ∈ scalarLines, Unbroken l.toList ∧ opensBlock l.toList = false ∧
      endTrimmed l = l.toList := by decide
  have hraw : ∀ l ∈ o.rawLines, Unbroken l.toList := by
    intro l hl
    rcases of_mem_rawLines hl with rfl | hl | ⟨d, hd, hl⟩
    · exact unbroken_nil
    · exact (hscalars l hl).1
    · exact (h d hd).unbroken l hl
  have hfirst : Reads (scalarLines.map endTrimmed) (scalarLines.map fun l => .line l.toList) := by
    have hsame : scalarLines.map endTrimmed = scalarLines.map String.toList :=
      List.map_congr_left fun l hl => (hscalars l hl).2.2
    have hlines := reads_lines (List.forall_mem_map.mpr fun l hl => (hscalars l hl).2.1)
    rw [List.map_map] at hlines
    exact hsame ▸ hlines
  have hparts : List.Forall₂ (fun g is => Reads (g.map endTrimmed) is)
      (scalarLines :: o.declarations.map Declaration.lines)
      (scalarLines.map (fun l => .line l.toList) :: o.declarations.map Declaration.items) :=
    .cons hfirst (List.forall₂_map_left_iff.mpr (List.forall₂_map_right_iff.mpr
      (List.forall₂_same.mpr fun d hd => (h d hd).reads)))
  have hall := reads_spaced hparts (List.cons_ne_nil _ _) []
  rw [splitLines_text_eq hraw fun d hd => (h d hd).framed]
  simpa only [List.append_nil, readItems] using hall

/-- The blocks of a document are opened by the headings of its declarations. -/
theorem openings_text (h : ∀ d ∈ o.declarations, d.Clean) :
    openings o.text = o.declarations.map (·.heading.text.toList) := by
  have hscalars : (scalarLines.map fun l => Item.line l.toList).filterMap Item.opening? = [] := by
    decide
  rw [openings, readItems_text h, openings_intercalate, List.flatMap_cons, hscalars,
    List.nil_append, List.flatMap_map, List.map_eq_flatMap]
  exact List.flatMap_congr fun d _ => d.openings_items

end Outline
end GraphSchema
