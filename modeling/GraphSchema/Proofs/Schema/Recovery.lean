import GraphSchema.Proofs.Schema.PropertyText
import GraphSchema.Proofs.Text.Identifiers

/-! The types of a node read back: a reader recovers from the text of an object type or an input
type what it is made from, so that nothing of it is lost in print. -/
namespace GraphSchema
open Text

section Readers

/-- The type that a text without brackets refers to; a mark at the end makes it required. -/
def readType (cs : List Char) : TypeRef :=
  if cs.getLast? = some '!' then .required (.named (String.ofList cs.dropLast))
  else .named (String.ofList cs)

/-- A field without arguments: its name stands in front of the first colon. -/
def readField (remark : Option String) (line : List Char) : FieldDecl where
  remark
  name := String.ofList (line.takeWhile (· ≠ ':'))
  type := readType ((line.dropWhile (· ≠ ':')).drop 2)

/-- Fields line by line; a line that begins with a number sign is the remark on the field below it.
-/
def readFields : Option String → List (List Char) → List FieldDecl
  | _, [] => []
  | remark, l :: ls =>
    if l.head? = some '#' then readFields (some (String.ofList l)) ls
    else readField remark l :: readFields none ls

/-- The name of a block, and its fields without their indent. Remarks may stand in front of it. -/
def readBlock (text : String) : Option (String × List FieldDecl) :=
  match (splitLines text.toList).dropWhile (·.head? = some '#') with
  | [] => none
  | opening :: rest =>
    (headedName? opening).map (·, readFields none (rest.dropLast.map (·.drop 2)))

end Readers

/-- What is printed of a property. -/
structure PropertyFacts where
  key : String
  type : Value
  isRequired : Value
  comment : Except FieldError String

def Property.facts (p : Property) : PropertyFacts := ⟨p.key, p.type, p.isRequired, p.comment⟩

namespace FieldDecl

/-- A field below a remark is a property. -/
def property? (f : FieldDecl) : Option PropertyFacts :=
  f.remark.map fun r =>
    ⟨f.name, .text f.type.name, .bool (f.type = .required (.named f.type.name)), .ok r⟩

/-- Any other field is a connection: its name and that of its type. -/
def connection? (f : FieldDecl) : Option (String × String) :=
  if f.remark.isNone then some (f.name, f.type.name) else none

end FieldDecl

/-- What an object type is made from. -/
structure ObjectFacts where
  name : String
  properties : List PropertyFacts
  connections : List (String × String)

/-- What an input type is made from. -/
structure InputFacts where
  name : String
  properties : List PropertyFacts

def readObject (text : String) : Option ObjectFacts :=
  (readBlock text).map fun (name, fields) =>
    ⟨name, fields.filterMap FieldDecl.property?, fields.filterMap FieldDecl.connection?⟩

/-- The name of an input type ends in "Input", which the name of the node goes without. -/
def readInput (text : String) : Option InputFacts :=
  (readBlock text).map fun (name, fields) =>
    ⟨String.ofList (name.toList.take (name.toList.length - 5)),
      fields.filterMap FieldDecl.property?⟩

namespace Node

def objectFacts (n : Node) (outgoing : List Link) : ObjectFacts where
  name := n.typeName
  properties := n.properties.map Property.facts
  connections := outgoing.map fun l => (l.edge.label, l.connectionName)

/-- What is generated is not asked for. -/
def inputFacts (n : Node) : InputFacts where
  name := n.typeName
  properties := (n.properties.filter fun p => !p.isAutoGenerated.counts).map Property.facts

end Node

section Types
variable {name : String}

theorem readType_named (h : name.toList.getLast? ≠ some '!') :
    readType (TypeRef.named name).text.toList = .named name := by
  rw [readType, TypeRef.text, if_neg h, String.ofList_toList]

theorem readType_required (name : String) :
    readType (TypeRef.required (.named name)).text.toList = .required (.named name) := by
  have htext : (TypeRef.required (.named name)).text.toList = name.toList ++ ['!'] := by
    rw [TypeRef.text, TypeRef.text, String.toList_append]
    rfl
  rw [readType, htext, if_pos List.getLast?_concat, List.dropLast_concat, String.ofList_toList]

end Types

namespace FieldDecl
variable {f : FieldDecl} {fs : List FieldDecl}

/-- A field that is told from remarks, and whose name and type are told apart. -/
structure Legible (f : FieldDecl) : Prop where
  clean : f.Clean
  arguments : f.arguments = []
  remark : ∀ r ∈ f.remark, r.toList.head? = some '#'
  first : f.name.toList.head? ≠ some '#'
  name : ':' ∉ f.name.toList
  type : readType f.type.text.toList = f.type

theorem Legible.toList_text (h : f.Legible) :
    f.text.toList = f.name.toList ++ ':' :: ' ' :: f.type.text.toList := by
  have hsignature : f.signature = "" := by
    rw [signature, h.arguments]
    rfl
  rw [text, hsignature]
  simp

theorem Legible.text_first (h : f.Legible) : f.text.toList.head? ≠ some '#' := by
  have hname := h.first
  rw [h.toList_text]
  cases hchars : f.name.toList with
  | nil => simp
  | cons c cs =>
    rw [hchars] at hname
    exact hname

/-- No colon stands in the name, so that the first colon ends it. -/
theorem Legible.readField (h : f.Legible) : readField f.remark f.text.toList = f := by
  have hname : ∀ c ∈ f.name.toList, decide (c ≠ ':') = true := by
    intro c hc
    rw [decide_eq_true_eq]
    rintro rfl
    exact h.name hc
  have htake : f.text.toList.takeWhile (· ≠ ':') = f.name.toList := by
    rw [h.toList_text, List.takeWhile_append_of_pos hname]
    simp
  have hdrop : (f.text.toList.dropWhile (· ≠ ':')).drop 2 = f.type.text.toList := by
    rw [h.toList_text, List.dropWhile_append_of_pos hname]
    rfl
  rw [GraphSchema.readField, htake, hdrop, h.type, String.ofList_toList, ← h.arguments]

/-- The lines of a field are read as that field, whatever follows them. -/
theorem Legible.readFields (h : f.Legible) (rest : List (List Char)) :
    readFields none (f.lines.map (fun l => l.toList.drop 2) ++ rest) =
      f :: readFields none rest := by
  have hindent (l : String) : (indent ++ l).toList.drop 2 = l.toList := by
    rw [String.toList_append]
    rfl
  have htext (remark : Option String) (hremark : remark = f.remark) :
      GraphSchema.readFields remark (f.text.toList :: rest) =
        f :: GraphSchema.readFields none rest := by
    rw [GraphSchema.readFields, if_neg h.text_first, hremark, h.readField]
  cases hremark : f.remark with
  | none =>
    simp only [lines, hremark, Option.toList_none, List.nil_append, List.map_cons, List.map_nil,
      hindent, List.singleton_append]
    exact htext none hremark.symm
  | some r =>
    have hsign : r.toList.head? = some '#' := h.remark r hremark
    simp only [lines, hremark, Option.toList_some, List.map_cons, List.map_nil, hindent,
      List.cons_append, List.nil_append]
    rw [GraphSchema.readFields, if_pos hsign, String.ofList_toList]
    exact htext (some r) hremark.symm

theorem readFields_lines (h : ∀ f ∈ fs, f.Legible) :
    GraphSchema.readFields none ((fs.flatMap lines).map fun l => l.toList.drop 2) = fs := by
  induction fs with
  | nil => rfl
  | cons f fs ih =>
    obtain ⟨hf, hfs⟩ := List.forall_mem_cons.mp h
    rw [List.flatMap_cons, List.map_append, hf.readFields, ih hfs]

end FieldDecl

namespace Declaration
variable {d : Declaration} {name : String} {fs : List FieldDecl}

/-- A declaration that is read back: a heading with a name and one group of fields, behind remarks.
-/
structure Legible (d : Declaration) (name : String) (fs : List FieldDecl) : Prop where
  remarks : ∀ r ∈ d.remarks, Unbroken r.toList ∧ r.toList.head? = some '#'
  heading : d.heading.Plain
  name : d.heading.name? = some name
  group : d.groups = [fs]
  fields : ∀ f ∈ fs, f.Legible

theorem Legible.lines_eq (h : d.Legible name fs) :
    d.lines = d.remarks ++ d.heading.text :: fs.flatMap FieldDecl.lines ++ ["\x7d"] := by
  rw [lines, body, h.group]
  rfl

theorem Legible.splitLines_text (h : d.Legible name fs) :
    splitLines d.text.toList = d.lines.map String.toList := by
  have hbefore : ∀ l ∈ d.remarks ++ d.heading.text :: fs.flatMap FieldDecl.lines,
      Unbroken l.toList := by
    refine List.forall_mem_append.mpr ⟨fun r hr => (h.remarks r hr).1, ?_⟩
    refine List.forall_mem_cons.mpr ⟨h.heading.unbroken_text, fun l hl => ?_⟩
    obtain ⟨f, hf, hl⟩ := List.mem_flatMap.mp hl
    exact ((h.fields f hf).clean.inner l hl).unbroken
  rw [text, toList_joined, h.lines_eq, List.map_append]
  exact splitLines_joinLines (List.forall_mem_map.mpr hbefore) (by decide) (by decide)

/-- A declaration is read back from its text. -/
theorem Legible.readBlock (h : d.Legible name fs) : readBlock d.text = some (name, fs) := by
  have hremarks : ∀ l ∈ d.remarks.map String.toList, decide (l.head? = some '#') = true :=
    List.forall_mem_map.mpr fun r hr => decide_eq_true (h.remarks r hr).2
  obtain ⟨word, hword, rest, -, hheading⟩ := Heading.toList_text h.heading h.name
  have hopening : d.heading.text.toList.head? ≠ some '#' := by
    have hwords : ∀ w ∈ ["type ", "input ", "interface "], w.toList ≠ [] ∧
        w.toList.head? ≠ some '#' := by decide
    obtain ⟨hne, hfirst⟩ := hwords word hword
    rw [hheading, List.append_assoc, List.head?_append_of_ne_nil _ hne]
    exact hfirst
  have hlines : (splitLines d.text.toList).dropWhile (·.head? = some '#') =
      d.heading.text.toList :: ((fs.flatMap FieldDecl.lines).map String.toList ++ [['\x7d']]) := by
    rw [h.splitLines_text, h.lines_eq, List.append_assoc, List.map_append,
      List.dropWhile_append_of_pos hremarks]
    simp only [List.cons_append, List.map_cons, List.map_append]
    exact List.dropWhile_cons_of_neg (by simpa using hopening)
  have hname : headedName? d.heading.text.toList = some name := by
    rw [hheading]
    exact headedName?_eq hword (h.heading name (by simp [h.name])) rest
  rw [GraphSchema.readBlock, hlines]
  simp only [hname, Option.map_some, List.dropLast_concat, List.map_map]
  exact congrArg (fun fields => some (name, fields)) (FieldDecl.readFields_lines h.fields)

end Declaration

/-- Neither mark of the layout stands in an identifier. -/
theorem IsIdentifier.told {s : String} (h : IsIdentifier s) :
    s.toList.head? ≠ some '#' ∧ ':' ∉ s.toList := by
  constructor
  · intro hhead
    exact h.not_mem (c := '#') (by decide) (List.mem_of_mem_head? hhead)
  · exact h.not_mem (by decide)

namespace Property
variable {p : Property}

theorem legible_field (hvalid : p.Valid) (hline : p.OneLine) : p.field.Legible := by
  have hmark (s : Scalar) : s.name.toList.getLast? ≠ some '!' := by
    cases s <;> decide
  obtain ⟨hfirst, hcolon⟩ := IsIdentifier.told hvalid.key
  constructor
  case clean => exact clean_field hvalid hline
  case arguments => rfl
  case remark =>
    intro r hr
    obtain rfl := Option.some.inj hr
    simp [commentFor]
  case first => exact hfirst
  case name => exact hcolon
  case type =>
    unfold field
    dsimp only
    split
    next => exact readType_required _
    next => exact readType_named (hmark _)

/-- The field of a valid property tells what is printed of it. -/
theorem property?_field (hvalid : p.Valid) (hvalues : p.beyond? = none) :
    p.field.property? = some p.facts := by
  obtain ⟨s, hs⟩ := hvalid.exists_scalar
  obtain ⟨b, hb⟩ := hvalid.isRequired
  rw [facts, type_of_scalar? hs, hb, comment_of_scalar hs hvalues]
  cases b <;> simp [FieldDecl.property?, field, hs, hb, Value.counts, TypeRef.name]

theorem connection?_field (p : Property) : p.field.connection? = none := rfl

end Property

namespace Link
variable {l : Link}

/-- The name of a connection ends in a letter, so that no mark is read off it. -/
theorem legible_field (h : IsIdentifier l.edge.label) : l.field.Legible := by
  have hlast : l.connectionName.toList.getLast? ≠ some '!' := by
    rw [connectionName, String.toList_append, List.getLast?_append_of_ne_nil _ (by decide)]
    decide
  obtain ⟨hfirst, hcolon⟩ := h.told
  constructor
  case clean =>
    exact FieldDecl.clean_bare (unbroken_of_isIdentifier h)
      (unbroken_of_solid l.solid_connectionName)
  case arguments => rfl
  case remark => exact fun _ hr => absurd hr (Option.not_mem_none _)
  case first => exact hfirst
  case name => exact hcolon
  case type => exact readType_named hlast

end Link

namespace Node
variable {m n : Node} {outgoing others : List Link}

/-- The properties are valid, their texts are single lines, their values can be written, and the
connections are identifiers. -/
structure Legible (n : Node) (outgoing : List Link) : Prop where
  properties : ∀ p ∈ n.properties, p.Valid ∧ p.OneLine
  values : ∀ p ∈ n.properties, p.beyond? = none
  labels : ∀ l ∈ outgoing, IsIdentifier l.edge.label

theorem plain_headings (n : Node) (outgoing : List Link) :
    (n.objectDeclaration outgoing).heading.Plain ∧ n.inputDeclaration.heading.Plain := by
  have hplain {d : Declaration} (hd : d ∈ (Outline.of [n] [] fun _ => outgoing).declarations) :
      d.heading.Plain := Outline.plain_headings d hd
  have hn : n ∈ [n] := List.mem_singleton.mpr rfl
  constructor
  · exact hplain (Outline.mem_declarations_iff.mpr (.object hn))
  · exact hplain (Outline.mem_declarations_iff.mpr (.input hn))

theorem Legible.objectDeclaration (h : n.Legible outgoing) :
    (n.objectDeclaration outgoing).Legible n.typeName
      (n.properties.map Property.field ++ outgoing.map Link.field) where
  remarks := fun _ hr => absurd hr List.not_mem_nil
  heading := (n.plain_headings outgoing).1
  name := rfl
  group := rfl
  fields := by
    refine List.forall_mem_append.mpr ⟨List.forall_mem_map.mpr fun p hp => ?_,
      List.forall_mem_map.mpr fun l hl => ?_⟩
    · exact p.legible_field (h.properties p hp).1 (h.properties p hp).2
    · exact l.legible_field (h.labels l hl)

theorem Legible.inputDeclaration (h : n.Legible outgoing) :
    n.inputDeclaration.Legible n.inputName (n.inputProperties.map Property.field) where
  remarks := by
    have hfor : Unbroken "#input for ".toList := by decide
    refine List.forall_mem_singleton.mpr ⟨?_, ?_⟩
    · rw [String.toList_append, unbroken_append]
      exact ⟨hfor, unbroken_of_solid n.solid_typeName⟩
    · simp
  heading := (n.plain_headings outgoing).2
  name := rfl
  group := rfl
  fields := by
    refine List.forall_mem_map.mpr fun p hp => ?_
    have hmem : p ∈ n.properties := List.mem_of_mem_filter hp
    exact p.legible_field (h.properties p hmem).1 (h.properties p hmem).2

theorem Legible.declarable (h : n.Legible outgoing) : ∀ p ∈ n.properties, p.Declarable :=
  fun p hp => ⟨(h.properties p hp).1.type, h.values p hp⟩

theorem Legible.typeLines (h : n.Legible outgoing) :
    (n.typeLines outgoing).map joined = .ok (n.objectDeclaration outgoing).text := by
  rw [typeLines_eq_ok.mpr ⟨h.declarable, rfl⟩]
  rfl

theorem Legible.inputLines (h : n.Legible outgoing) :
    n.inputLines.map joined = .ok n.inputDeclaration.text := by
  rw [inputLines_eq_ok.mpr ⟨fun p hp => h.declarable p (List.mem_of_mem_filter hp), rfl⟩]
  rfl

theorem Legible.filterMap_property? (h : n.Legible outgoing) {ps : List Property}
    (hps : ∀ p ∈ ps, p ∈ n.properties) :
    (ps.map Property.field).filterMap FieldDecl.property? = ps.map Property.facts := by
  rw [List.filterMap_map, ← List.filterMap_eq_map]
  exact List.filterMap_congr fun p hp =>
    p.property?_field (h.properties p (hps p hp)).1 (h.values p (hps p hp))

theorem readObject_text (h : n.Legible outgoing) :
    readObject (n.objectDeclaration outgoing).text = some (n.objectFacts outgoing) := by
  have hnone : (outgoing.map Link.field).filterMap FieldDecl.property? = [] := by
    simp [FieldDecl.property?, Link.field]
  have hbare : (n.properties.map Property.field).filterMap FieldDecl.connection? = [] := by
    simp [Property.connection?_field]
  have hconnections : (outgoing.map Link.field).filterMap FieldDecl.connection? =
      outgoing.map fun l => (l.edge.label, l.connectionName) := by
    rw [List.filterMap_map, ← List.filterMap_eq_map]
    rfl
  have hproperties := h.filterMap_property? fun _ hp => hp
  rw [readObject, h.objectDeclaration.readBlock]
  simp only [Option.map_some, List.filterMap_append, hnone, hbare, hconnections, hproperties,
    List.nil_append, List.append_nil]
  rfl

theorem readInput_text (h : n.Legible outgoing) :
    readInput n.inputDeclaration.text = some n.inputFacts := by
  have hname : String.ofList (n.inputName.toList.take (n.inputName.toList.length - 5)) =
      n.typeName := by
    have hending : "Input".toList.length = 5 := by decide
    rw [inputName, String.toList_append, List.length_append, hending, Nat.add_sub_cancel,
      List.take_left, String.ofList_toList]
  have hproperties : (n.inputProperties.map Property.field).filterMap FieldDecl.property? =
      n.inputProperties.map Property.facts :=
    h.filterMap_property? fun _ hp => List.mem_of_mem_filter hp
  rw [readInput, h.inputDeclaration.readBlock]
  simp only [Option.map_some, hname, hproperties]
  rfl

/-- The text of an object type tells the name of the type, the properties as far as they are
printed, and the connections, each in order: they are read back from it, so that types with the same
text agree in all of these. The same goes for an input type and the properties that are not
generated. -/
theorem types_tell (hm : m.Legible outgoing) (hn : n.Legible others) :
    (∃ object, (m.typeLines outgoing).map joined = .ok object ∧
        readObject object = some (m.objectFacts outgoing)) ∧
      (∃ input, m.inputLines.map joined = .ok input ∧ readInput input = some m.inputFacts) ∧
      ((m.typeLines outgoing).map joined = (n.typeLines others).map joined →
        m.objectFacts outgoing = n.objectFacts others) ∧
      (m.inputLines.map joined = n.inputLines.map joined → m.inputFacts = n.inputFacts) := by
  refine ⟨⟨_, hm.typeLines, readObject_text hm⟩, ⟨_, hm.inputLines, readInput_text hm⟩, ?_, ?_⟩
  · intro hsame
    rw [hm.typeLines, hn.typeLines] at hsame
    have hread := readObject_text hm
    rw [Except.ok.inj hsame, readObject_text hn] at hread
    exact (Option.some.inj hread).symm
  · intro hsame
    rw [hm.inputLines, hn.inputLines] at hsame
    have hread := readInput_text hm
    rw [Except.ok.inj hsame, readInput_text hn] at hread
    exact (Option.some.inj hread).symm

/-- Two nodes that differ in their labels and in the kind of a default, and yet have one text. -/
def person (label : String) (age : Value) : Node :=
  { id := "n1", label
    properties := [
      { key := "age", type := .text "Int", description := .text "in years; # not: !",
        defaultValue := age },
      { key := "code", isRequired := .bool true, isAutoGenerated := .bool true }] }

theorem types_tell_twins :
    let m := person "user account" (.int 1)
    let n := person "userAccount" (.text "1")
    let edge : Edge := { id := "e1", label := "knows", startId := "n1", endId := "n1" }
    m.Legible [⟨edge, m, m⟩] ∧ n.Legible [⟨edge, n, n⟩] ∧
      (m.typeLines [⟨edge, m, m⟩]).map joined = (n.typeLines [⟨edge, n, n⟩]).map joined ∧
      m.objectFacts [⟨edge, m, m⟩] = n.objectFacts [⟨edge, n, n⟩] ∧
      m.inputLines.map joined = n.inputLines.map joined ∧ m.inputFacts = n.inputFacts := by
  intro m n edge
  have hproperties (label : String) {age : Value} (hage : age.OneLine) :
      ∀ p ∈ (person label age).properties, p.Valid ∧ p.OneLine := by
    have hfirst : isIdentifier "age".toList = true ∧ Unbroken "in years; # not: !".toList := by decide
    have hsecond : isIdentifier "code".toList = true ∧ Unbroken "".toList := by decide
    refine List.forall_mem_cons.mpr ⟨⟨?_, hfirst.2, hage⟩,
      List.forall_mem_singleton.mpr ⟨?_, hsecond.2, trivial⟩⟩
    · exact ⟨hfirst.1, rfl, ⟨_, rfl⟩, ⟨_, rfl⟩, ⟨_, rfl⟩, trivial, trivial⟩
    · exact ⟨hsecond.1, rfl, ⟨_, rfl⟩, ⟨_, rfl⟩, ⟨_, rfl⟩, trivial, trivial⟩
  have hlabel : IsIdentifier edge.label := by decide
  have hm : m.Legible [⟨edge, m, m⟩] :=
    ⟨hproperties _ trivial, by decide, List.forall_mem_singleton.mpr hlabel⟩
  have hn : n.Legible [⟨edge, n, n⟩] :=
    ⟨hproperties _ (show Unbroken "1".toList by decide), by decide,
      List.forall_mem_singleton.mpr hlabel⟩
  have hname : m.typeName = n.typeName := by decide +kernel
  have hfields : m.properties.map Property.field = n.properties.map Property.field := by decide
  have hinputs : m.inputProperties.map Property.field = n.inputProperties.map Property.field := by
    decide
  have hobject : (m.typeLines [⟨edge, m, m⟩]).map joined =
      (n.typeLines [⟨edge, n, n⟩]).map joined := by
    rw [hm.typeLines, hn.typeLines]
    simp only [objectDeclaration, List.map_cons, Link.field, Link.connectionName, Link.baseName,
      hname, hfields]
  have hinput : m.inputLines.map joined = n.inputLines.map joined := by
    rw [hm.inputLines, hn.inputLines]
    simp only [inputDeclaration, inputName, hname, hinputs]
  obtain ⟨-, -, hobjects, hinserted⟩ := types_tell hm hn
  exact ⟨hm, hn, hobject, hobjects hobject, hinput, hinserted hinput⟩

end Node
end GraphSchema
