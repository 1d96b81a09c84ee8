import GraphSchema.Proofs.Graph.Loading
import GraphSchema.Proofs.Graph.Validated
import GraphSchema.Proofs.Text.OneLine

/-! Dumps of properties, nodes, edges and stores as values, under either name of each field. What
checks have accepted they accept again, unchanged, when it is dumped; so a store of validated parts
is loaded from its dump as it was. -/
namespace GraphSchema

/-- Whether a field is written under its second name. -/
abbrev Spelling := FieldName → Bool

namespace FieldName
variable {f : FieldName} {spell : Spelling} {v : Value} {entries : List (FieldName × Value)}

/-- All names of a field. -/
def names (f : FieldName) : List String := f.name :: f.alias?.toList

def spelled (spell : Spelling) (f : FieldName) : String := if spell f then f.shown else f.name

/-- An object with each field under one of its names. -/
def written (spell : Spelling) (entries : List (FieldName × Value)) : List (String × Value) :=
  entries.map fun e => (e.1.spelled spell, e.2)

/-- No two of the fields have a name in common. -/
def Apart (fs : List FieldName) : Prop := fs.Pairwise fun f g => ∀ n ∈ f.names, n ∉ g.names

instance : DecidablePred Apart := fun _ => inferInstanceAs (Decidable (List.Pairwise _ _))

theorem spelled_mem_names : f.spelled spell ∈ f.names := by
  unfold spelled shown names
  split
  next => cases f.alias? <;> simp
  next => exact List.mem_cons_self ..

theorem lookup_written_of_not_mem {name : String}
    (h : ∀ g ∈ entries.map Prod.fst, name ∉ g.names) :
    (written spell entries).lookup name = none := by
  refine List.lookup_eq_none_iff.mpr fun e he => ?_
  obtain ⟨entry, hentry, rfl⟩ := List.mem_map.mp he
  have hne : name ≠ entry.1.spelled spell := by
    rintro rfl
    exact h _ (List.mem_map_of_mem hentry) spelled_mem_names
  exact bne_iff_ne.mpr hne

/-- Of the names of a field, the one that is written finds the value and the other nothing. -/
theorem lookup_written (hapart : Apart (entries.map Prod.fst)) (hmem : (f, v) ∈ entries)
    {name : String} (hname : name ∈ f.names) :
    (written spell entries).lookup name = if name = f.spelled spell then some v else none := by
  induction entries with
  | nil => exact absurd hmem List.not_mem_nil
  | cons e es ih =>
    obtain ⟨hhead, hrest⟩ := List.pairwise_cons.mp hapart
    have hcons : (written spell (e :: es)).lookup name =
        if name = e.1.spelled spell then some e.2 else (written spell es).lookup name := by
      simp only [written, List.map_cons, List.lookup_cons]
      split <;> simp_all
    rw [hcons]
    rcases List.mem_cons.mp hmem with rfl | hmem
    · rw [lookup_written_of_not_mem fun g hg => hhead g hg name hname]
    · have hne : name ≠ e.1.spelled spell := by
        rintro rfl
        exact hhead f (List.mem_map_of_mem hmem) _ spelled_mem_names hname
      rw [if_neg hne, ih hrest hmem]

theorem find?_written (hapart : Apart (entries.map Prod.fst)) (hmem : (f, v) ∈ entries) :
    f.find? (written spell entries) = some (f.spelled spell, v) := by
  have hlookup {name : String} (hname : name ∈ f.names) : (written spell entries).lookup name =
      if name = f.spelled spell then some v else none := lookup_written hapart hmem hname
  have hfirst : f.name ∈ f.names := List.mem_cons_self ..
  unfold find?
  cases halias : f.alias? with
  | none =>
    have hspelled : f.spelled spell = f.name := by simp [spelled, shown, halias]
    rw [hspelled]
    simp [hlookup hfirst, hspelled]
  | some second =>
    have hsecond : second ∈ f.names := by simp [names, halias]
    rw [Option.bind_some, hlookup hsecond]
    -- the second name goes first, also where it is not the one that is written
    by_cases hname : second = f.spelled spell
    · rw [if_pos hname, hname]
      rfl
    · have hspelled : f.spelled spell = f.name := by
        by_cases hspell : spell f = true
        · exact absurd (by simp [spelled, shown, halias, hspell]) hname
        · simp [spelled, hspell]
      rw [if_neg hname, hlookup hfirst, if_pos hspelled.symm, hspelled]
      rfl

section Reading
variable {α : Type} {check : Value → Checked α} {default a : α}

theorem required_written (hapart : Apart (entries.map Prod.fst)) (hmem : (f, v) ∈ entries)
    (h : check v = .ok a) : f.required check (written spell entries) = .ok a := by
  rw [required, find?_written hapart hmem]
  exact Checked.within_eq_ok.mpr h

theorem optional_written (hapart : Apart (entries.map Prod.fst)) (hmem : (f, v) ∈ entries)
    (h : check v = .ok a) : f.optional default check (written spell entries) = .ok a := by
  rw [optional, find?_written hapart hmem]
  exact Checked.within_eq_ok.mpr h

end Reading
end FieldName

section Fixed
variable {v : Value} {t : String}
open Text

theorem Check.key_of_isIdentifier (h : isIdentifier t.toList = true) :
    Check.key (.text t) = .ok t := by
  have htrim := trim_eq_self (not_blank_of_isIdentifier h)
  simp [Check.key, Check.text, htrim, passesAsIdentifier_of_isIdentifier h]

theorem Check.textOrNumber_text (t : String) : Check.textOrNumber (.text t) = .ok t := rfl

theorem Check.limit_of_isLimit (h : v.IsLimit) : Check.limit v = .ok v := by
  cases v with
  | null => rfl
  | int n => rfl
  | float x => rfl
  | _ => exact h.elim

theorem Check.label_of_valid (model : Model) (h : ValidLabel t) :
    Check.label model (.text t) = .ok t := by
  obtain ⟨hne, htrim⟩ := h
  rw [Check.label, Check.textOrNumber_text]
  dsimp only
  rw [htrim]
  split
  next hnil => exact absurd (String.toList_eq_nil_iff.mp hnil) hne
  next => rw [String.ofList_toList]

theorem Check.scalarName_of_isSome (h : (Scalar.ofValue? v).isSome) :
    Check.scalarName v = .ok v := by
  obtain ⟨s, hs⟩ := Option.isSome_iff_exists.mp h
  unfold Scalar.ofValue? at hs
  split at hs
  next name hname =>
    obtain rfl := Scalar.ofName?_eq_some.mp hs
    simp [Check.scalarName, Scalar.ofValue?, Scalar.ofName?_name]
  next => simp at hs

end Fixed

namespace Property
variable {p : Property} {spell : Spelling}

def entries (p : Property) : List (FieldName × Value) :=
  [(keyField, .text p.key), (typeField, p.type), (descriptionField, p.description),
    (isRequiredField, p.isRequired), (isAutoGeneratedField, p.isAutoGenerated),
    (defaultValueField, p.defaultValue), (limitMinField, p.limitMin), (limitMaxField, p.limitMax)]

def dump (spell : Spelling) (p : Property) : Value := .object (FieldName.written spell p.entries)

theorem entries_apart (p : Property) : FieldName.Apart (p.entries.map Prod.fst) := by
  show FieldName.Apart [keyField, typeField, descriptionField, isRequiredField,
    isAutoGeneratedField, defaultValueField, limitMinField, limitMaxField]
  decide

/-- A valid property is accepted from its dump, unchanged. -/
theorem check_dump (h : p.Valid) (spell : Spelling) : check (p.dump spell) = .ok p := by
  have hoptional {f : FieldName} {v default : Value} {check : Value → Checked Value}
      (hmem : (f, v) ∈ p.entries) (hv : check v = .ok v) :
      f.optional default check (FieldName.written spell p.entries) = .ok v :=
    FieldName.optional_written p.entries_apart hmem hv
  obtain ⟨t, hdescription⟩ := h.description
  obtain ⟨required, hrequired⟩ := h.isRequired
  obtain ⟨auto, hauto⟩ := h.isAutoGenerated
  have hkey : (keyField, .text p.key) ∈ p.entries := by simp [entries]
  have htype : (typeField, p.type) ∈ p.entries := by simp [entries]
  have hdescribed : (descriptionField, p.description) ∈ p.entries := by simp [entries]
  have hneeded : (isRequiredField, p.isRequired) ∈ p.entries := by simp [entries]
  have hgenerated : (isAutoGeneratedField, p.isAutoGenerated) ∈ p.entries := by simp [entries]
  have hdefault : (defaultValueField, p.defaultValue) ∈ p.entries := by simp [entries]
  have hmin : (limitMinField, p.limitMin) ∈ p.entries := by simp [entries]
  have hmax : (limitMaxField, p.limitMax) ∈ p.entries := by simp [entries]
  rw [dump, check,
    FieldName.required_written p.entries_apart hkey (Check.key_of_isIdentifier h.key),
    hoptional htype (Check.scalarName_of_isSome h.type),
    hoptional hdescribed (by rw [hdescription]; rfl), hoptional hneeded (by rw [hrequired]; rfl),
    hoptional hgenerated (by rw [hauto]; rfl), hoptional hdefault rfl,
    hoptional hmin (Check.limit_of_isLimit h.limitMin),
    hoptional hmax (Check.limit_of_isLimit h.limitMax)]
  rfl

/-- A list of properties as a value. -/
def dumpAll (spell : Spelling) (ps : List Property) : Value := .list (ps.map (dump spell))

theorem checkProperties_dumpAll {ps : List Property} (h : ∀ p ∈ ps, p.Valid) (spell : Spelling) :
    checkProperties (dumpAll spell ps) = .ok ps := by
  have hall : List.Forall₂ (fun v p => check v = .ok p) (ps.map (dump spell)) ps :=
    List.forall₂_map_left_iff.mpr (List.forall₂_same.mpr fun p hp => check_dump (h p hp) spell)
  exact Checked.each_eq_ok.mpr hall

example : dump (fun _ => true) { key := "age", type := .text "Int" } = .object [
    ("key", .text "age"), ("type", .text "Int"), ("description", .text ""),
    ("isRequired", .bool false), ("isAutoGenerated", .bool false), ("defaultValue", .null),
    ("limitMin", .null), ("limitMax", .null)] := rfl

end Property

namespace Node

def entries (spell : Spelling) (n : Node) : List (FieldName × Value) :=
  [(idField, .text n.id), (labelField, .text n.label),
    (propertiesField, Property.dumpAll spell n.properties)]

def dump (spell : Spelling) (n : Node) : Value :=
  .object (FieldName.written spell (n.entries spell))

theorem check_dump {n : Node} (h : n.Valid) (spell : Spelling) (used : Nat) :
    check used (n.dump spell) = .ok n := by
  have hapart : FieldName.Apart ((n.entries spell).map Prod.fst) := by
    show FieldName.Apart [idField, labelField, propertiesField]
    decide
  have hid : (idField, .text n.id) ∈ n.entries spell := by simp [entries]
  have hlabel : (labelField, .text n.label) ∈ n.entries spell := by simp [entries]
  have hproperties : (propertiesField, Property.dumpAll spell n.properties) ∈ n.entries spell := by
    simp [entries]
  rw [dump, check, FieldName.optional_written hapart hid (Check.textOrNumber_text n.id),
    FieldName.required_written hapart hlabel (Check.label_of_valid .node h.label),
    FieldName.optional_written hapart hproperties
      (Property.checkProperties_dumpAll h.properties spell)]
  rfl

end Node

namespace Edge

def entries (spell : Spelling) (e : Edge) : List (FieldName × Value) :=
  [(idField, .text e.id), (labelField, .text e.label), (startIdField, .text e.startId),
    (endIdField, .text e.endId), (propertiesField, Property.dumpAll spell e.properties)]

def dump (spell : Spelling) (e : Edge) : Value :=
  .object (FieldName.written spell (e.entries spell))

theorem check_dump {e : Edge} (h : e.Valid) (spell : Spelling) (used : Nat) :
    check used (e.dump spell) = .ok e := by
  have hapart : FieldName.Apart ((e.entries spell).map Prod.fst) := by
    show FieldName.Apart [idField, labelField, startIdField, endIdField, propertiesField]
    decide
  have hid : (idField, .text e.id) ∈ e.entries spell := by simp [entries]
  have hlabel : (labelField, .text e.label) ∈ e.entries spell := by simp [entries]
  have hstart : (startIdField, .text e.startId) ∈ e.entries spell := by simp [entries]
  have hend : (endIdField, .text e.endId) ∈ e.entries spell := by simp [entries]
  have hproperties : (propertiesField, Property.dumpAll spell e.properties) ∈ e.entries spell := by
    simp [entries]
  rw [dump, check, FieldName.optional_written hapart hid (Check.textOrNumber_text e.id),
    FieldName.required_written hapart hlabel (Check.label_of_valid .edge h.label),
    FieldName.required_written hapart hstart (Check.textOrNumber_text e.startId),
    FieldName.required_written hapart hend (Check.textOrNumber_text e.endId),
    FieldName.optional_written hapart hproperties
      (Property.checkProperties_dumpAll h.properties spell)]
  rfl

end Edge

namespace Load
variable {l : Load} {strict : Bool} (spell : Spelling)

theorem parts_list (vs : List Value) : parts (.list vs) = .ok vs := by
  cases vs <;> rfl

theorem takeNode_dump {n : Node} (hvalid : n.Valid) (hl : l.failure = none)
    (hnew : l.store.nodes.has n.id = false) :
    (l.takeNode (n.dump spell)).failure = none ∧ (l.takeNode (n.dump spell)).store =
      { l.store with nodes := l.store.nodes.add n.id n } := by
  have hadd := Store.addNode_eq_ok.mpr ⟨hnew, rfl⟩
  simp [takeNode, hl, Node.check_dump hvalid, hadd, accept]

/-- Nodes with ids that are new and differ are all taken from their dumps, in order. -/
theorem takeNodes_dump {ns : List Node} (hvalid : ∀ n ∈ ns, n.Valid) (hl : l.failure = none)
    (hids : (l.store.nodes.keys ++ ns.map Node.id).Nodup) :
    ((ns.map (Node.dump spell)).foldl takeNode l).failure = none ∧
      ((ns.map (Node.dump spell)).foldl takeNode l).store =
        { l.store with nodes := l.store.nodes ++ ns.map fun n => (n.id, n) } := by
  induction ns generalizing l with
  | nil => exact ⟨hl, by simp⟩
  | cons n ns ih =>
    obtain ⟨hn, hns⟩ := List.forall_mem_cons.mp hvalid
    have hnew := Registry.has_eq_false_of_nodup hids
    obtain ⟨hfailure, hstore⟩ := takeNode_dump spell hn hl hnew
    have hrest := ih hns hfailure (by
      rw [hstore, Registry.keys_add, List.append_assoc]
      exact hids)
    rw [hstore] at hrest
    simpa [Registry.add] using hrest

theorem takeEdge_dump {e : Edge} (hvalid : e.Valid) (hl : l.failure = none)
    (hnew : l.store.edges.has e.id = false)
    (hends : strict = true → e.startId ∈ l.store.nodes.keys ∧ e.endId ∈ l.store.nodes.keys) :
    (l.takeEdge strict (e.dump spell)).failure = none ∧ (l.takeEdge strict (e.dump spell)).store =
      { l.store with edges := l.store.edges.add e.id e } := by
  have hregister := Store.registerEdge_eq_ok.mpr ⟨hnew, rfl⟩
  have hinsert : insertEdge strict l.store e =
      .ok { l.store with edges := l.store.edges.add e.id e } := by
    cases strict with
    | false => exact hregister
    | true =>
      obtain ⟨start, finish⟩ := hends rfl
      exact Store.addEdge_eq_ok.mpr
        ⟨Registry.has_iff.mpr start, Registry.has_iff.mpr finish, hregister⟩
  rw [takeEdge_of_insertEdge hl (Edge.check_dump hvalid spell l.used) hinsert]
  exact ⟨hl, rfl⟩

/-- So are edges; a strict load wants their ends to be there. -/
theorem takeEdges_dump {es : List Edge} (hvalid : ∀ e ∈ es, e.Valid) (hl : l.failure = none)
    (hids : (l.store.edges.keys ++ es.map Edge.id).Nodup)
    (hends : strict = true →
      ∀ e ∈ es, e.startId ∈ l.store.nodes.keys ∧ e.endId ∈ l.store.nodes.keys) :
    ((es.map (Edge.dump spell)).foldl (takeEdge strict) l).outcome =
      .ok { l.store with edges := l.store.edges ++ es.map fun e => (e.id, e) } := by
  induction es generalizing l with
  | nil => simp [outcome, hl]
  | cons e es ih =>
    obtain ⟨he, hes⟩ := List.forall_mem_cons.mp hvalid
    have hnew := Registry.has_eq_false_of_nodup hids
    obtain ⟨hfailure, hstore⟩ := takeEdge_dump spell he hl hnew fun hstrict =>
      hends hstrict e (List.mem_cons_self ..)
    have hrest := ih hes hfailure (by
      rw [hstore, Registry.keys_add, List.append_assoc]
      exact hids) (by
      rw [hstore]
      exact fun hstrict f hf => hends hstrict f (List.mem_cons_of_mem _ hf))
    rw [hstore] at hrest
    simpa [Registry.add] using hrest

end Load

namespace Store

/-- All nodes and all edges of a store, in order, as a document. -/
def dump (spell : Spelling) (s : Store) : Value := .object [
  ("nodes", .list (s.allNodes.map (Node.dump spell))),
  ("edges", .list (s.allEdges.map (Edge.dump spell)))]

variable {s : Store}

/-- A store with valid entities under their own ids is loaded from its dump, also strictly if every
edge joins two of its nodes. -/
theorem document_dump (hkeyed : s.Keyed) (hvalid : s.Valid) {strict : Bool}
    (hlinked : strict = true → s.Linked) (spell : Spelling) (used : Nat) :
    (Load.document strict used (s.dump spell)).outcome = .ok s := by
  have hnodes : s.allNodes.map (fun n => (n.id, n)) = s.nodes := hkeyed.nodes.eq_map
  have hedges : s.allEdges.map (fun e => (e.id, e)) = s.edges := hkeyed.edges.eq_map
  obtain ⟨hfailure, hstore⟩ := Load.takeNodes_dump (l := { used }) spell hvalid.nodes rfl
    hkeyed.nodes.nodup_ids
  rw [dump, Load.document_outcome]
  show (Load.takeAll (Load.takeEdge strict) (.list (s.allEdges.map (Edge.dump spell)))
    (Load.takeAll Load.takeNode (.list (s.allNodes.map (Node.dump spell))) { used })).outcome = _
  rw [Load.takeAll_parts (l := { used }) rfl (Load.parts_list _),
    Load.takeAll_parts hfailure (Load.parts_list _)]
  -- of the load of the nodes only what it stored matters to that of the edges
  generalize (s.allNodes.map (Node.dump spell)).foldl Load.takeNode { used } = l
    at hfailure hstore ⊢
  have hbefore : l.store = ⟨s.nodes, []⟩ := by
    rw [hstore, hnodes]
    rfl
  have hids : (l.store.edges.keys ++ s.allEdges.map Edge.id).Nodup := by
    rw [hbefore]
    exact hkeyed.edges.nodup_ids
  have hends : strict = true →
      ∀ e ∈ s.allEdges, e.startId ∈ l.store.nodes.keys ∧ e.endId ∈ l.store.nodes.keys := by
    rw [hbefore]
    exact hlinked
  rw [Load.takeEdges_dump spell hvalid.edges hfailure hids hends, hbefore, hedges]
  rfl

theorem Furnished.keyed (h : s.Furnished) : s.Keyed := by
  cases h with
  | loaded h => exact (Reached.loaded h).keyed
  | built _ _ h => exact (Origin.built h).sound.toKeyed

/-- A store that was loaded or built from validated parts, and edited with such, is loaded from its
dump as it is, so that the same is generated from it. Every property, node and edge that a check
accepts is accepted from its dump, unchanged. -/
theorem survives_dump {s : Store} (h : s.Furnished) {es : List Edit} (hes : ∀ e ∈ es, e.Validated)
    (spell : Spelling) (used : Nat) :
    (∀ strict, (strict = true → (s.afterAll es).Linked) →
      (Load.document strict used ((s.afterAll es).dump spell)).outcome = .ok (s.afterAll es)) ∧
      (∀ strict t, (Load.document strict used ((s.afterAll es).dump spell)).outcome = .ok t →
        t = s.afterAll es ∧
          ∀ d : Diagnosis, d.generate t.provider = d.generate (s.afterAll es).provider) ∧
      (∀ v p, Property.check v = .ok p → Property.check (p.dump spell) = .ok p) ∧
      (∀ k v n, Node.check k v = .ok n → Node.check used (n.dump spell) = .ok n) ∧
      ∀ k v e, Edge.check k v = .ok e → Edge.check used (e.dump spell) = .ok e := by
  have hvalid : (s.afterAll es).Valid := valid_of_run (fun e he => (hes e he).valid) h.valid
  have hkeyed : (s.afterAll es).Keyed :=
    afterAll_keeps (fun (_ : True) => Effect.keyed) (fun _ _ => trivial) h.keyed
  refine ⟨?_, ?_, ?_, ?_, ?_⟩
  · intro strict hlinked
    exact document_dump hkeyed hvalid hlinked spell used
  · intro strict t ht
    have hlenient : (Load.document false used ((s.afterAll es).dump spell)).outcome = .ok t := by
      cases strict with
      | false => exact ht
      | true => exact Load.lenient_outcome ht
    have hlinked : false = true → (s.afterAll es).Linked := by simp
    have hload := document_dump hkeyed hvalid hlinked spell used
    obtain rfl := Except.ok.inj (hlenient.symm.trans hload)
    exact ⟨rfl, fun _ => rfl⟩
  · intro v p hp
    exact Property.check_dump (Property.valid_of_check hp) spell
  · intro k v n hn
    exact Node.check_dump (Node.valid_of_check hn) spell used
  · intro k v e he
    exact Edge.check_dump (Edge.valid_of_check he) spell used

/-- A person and a city with numbers and words where texts, limits and booleans are meant, some
fields under their second names, and no id for the edge. -/
def rough : Value := .object [
  ("nodes", .list [
    .object [("id", .int 1), ("label", .text " person\n"), ("properties", .list [
      .object [("key", .text "age "), ("type", .text "Int"), ("isRequired", .text "Yes"),
        ("limitMin", .text " 7"), ("limit_max", .text ""), ("description", .null)]])],
    .object [("id", .text "c"), ("label", .int 7)]]),
  ("edges", .list [
    .object [("label", .text "lives in"), ("start_node_id", .int 1), ("endNodeID", .text "c")]])]

def roughEdits : List Edit := [
  .setNodeLabel (.text "c") (.text " city "),
  .setEdgeProperties (.text "auto-1") (.value (.list [
    .object [("key", .text "since"), ("type", .text "Datetime"), ("defaultValue", .list [])]]))]

/-- The document is written under second names. -/
theorem survives_dump_rough :
    ∃ s, (Load.document false 0 rough).outcome = .ok s ∧ (∀ e ∈ roughEdits, e.Validated) ∧
      (∀ strict, (strict = true → (s.afterAll roughEdits).Linked) →
        (Load.document strict 0 ((s.afterAll roughEdits).dump fun _ => true)).outcome =
          .ok (s.afterAll roughEdits)) ∧
      (∀ strict t,
        (Load.document strict 0 ((s.afterAll roughEdits).dump fun _ => true)).outcome = .ok t →
          t = s.afterAll roughEdits ∧
            ∀ d : Diagnosis, d.generate t.provider = d.generate (s.afterAll roughEdits).provider) ∧
      (∀ v p, Property.check v = .ok p → Property.check (p.dump fun _ => true) = .ok p) ∧
      (∀ k v n, Node.check k v = .ok n → Node.check 0 (n.dump fun _ => true) = .ok n) ∧
      ∀ k v e, Edge.check k v = .ok e → Edge.check 0 (e.dump fun _ => true) = .ok e := by
  have hload : (Load.document false 0 rough).outcome = .ok _ := rfl
  have hedits : ∀ e ∈ roughEdits, e.Validated :=
    List.forall_mem_cons.mpr ⟨trivial, List.forall_mem_singleton.mpr trivial⟩
  exact ⟨_, hload, hedits, survives_dump (.loaded hload) hedits (fun _ => true) 0⟩

end Store
end GraphSchema
