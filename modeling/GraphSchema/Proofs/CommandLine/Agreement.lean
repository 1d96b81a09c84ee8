import GraphSchema.Proofs.CommandLine.Sessions
import GraphSchema.Proofs.Graph.Loading
import GraphSchema.Proofs.Graph.Validated
import GraphSchema.Proofs.Schema.Blocks
import GraphSchema.Proofs.Schema.Provenance

/-! The commands agree: a graph that is shown without a missing node is one whose document is
generated, strictly or not, and the names that are shown are those that the document declares. The
values of properties are not shown, so that those which cannot be written stop generation only. -/
namespace GraphSchema.CommandLine

/-- What is shown of a node. -/
structure NodeRow where
  label : String
  type : String
  input : String
  query : String
  properties : Nat
  deriving DecidableEq, Repr

namespace NodeRow

def of (n : Node) : NodeRow := ⟨n.label, n.typeName, n.inputName, n.queryName, n.properties.length⟩

def text (r : NodeRow) : String :=
  "  - " ++ r.label ++ ": type " ++ r.type ++ ", input " ++ r.input ++ ", query " ++ r.query ++
    ", " ++ toString r.properties ++ " properties\n"

end NodeRow

/-- What is shown of an edge that has its nodes. -/
structure LinkRow where
  label : String
  start : String
  finish : String
  edge : String
  connection : String
  deriving DecidableEq, Repr

def LinkRow.of (l : Link) : LinkRow :=
  ⟨l.edge.label, l.start.label, l.finish.label, l.edgeName, l.connectionName⟩

inductive EdgeRow where
  | link (r : LinkRow)
  | dangling (label message : String)
  deriving DecidableEq, Repr

namespace EdgeRow

def of (store : Store) (e : Edge) : EdgeRow :=
  match store.provider.resolve e with
  | .ok l => link ⟨e.label, l.start.label, l.finish.label, l.edgeName, l.connectionName⟩
  | .error x => dangling e.label x.message

def text : EdgeRow → String
  | link r =>
    "  - " ++ r.label ++ ": " ++
      (r.start ++ " -> " ++ r.finish ++ ", " ++ r.edge ++ " / " ++ r.connection) ++ "\n"
  | dangling label message => "  - " ++ label ++ ": " ++ ("❌ " ++ message) ++ "\n"

end EdgeRow

/-- The output of an inspection. -/
def listing (nodes : List NodeRow) (edges : List EdgeRow) : String :=
  "📋 Nodes (" ++ toString nodes.length ++ "):\n" ++ String.join (nodes.map NodeRow.text) ++
    "\n🔗 Edges (" ++ toString edges.length ++ "):\n" ++ String.join (edges.map EdgeRow.text)

section Rows
variable {store : Store}

theorem nodeLine_eq (n : Node) : Session.nodeLine n = (NodeRow.of n).text := rfl

theorem edgeLine_eq (store : Store) (e : Edge) :
    Session.edgeLine e (store.provider.resolve e) = (EdgeRow.of store e).text := by
  unfold Session.edgeLine EdgeRow.of
  cases store.provider.resolve e with
  | ok l => rfl
  | error x => rfl

theorem summary_eq (store : Store) :
    String.join (Session.summary store) =
      listing (store.allNodes.map NodeRow.of) (store.allEdges.map (EdgeRow.of store)) := by
  have hnodes : store.allNodes.map Session.nodeLine =
      (store.allNodes.map NodeRow.of).map NodeRow.text := by
    rw [List.map_map]
    exact List.map_congr_left fun n _ => nodeLine_eq n
  have hedges : (store.allEdges.map fun e => Session.edgeLine e (store.provider.resolve e)) =
      (store.allEdges.map (EdgeRow.of store)).map EdgeRow.text := by
    rw [List.map_map]
    exact List.map_congr_left fun e _ => edgeLine_eq store e
  unfold Session.summary listing
  rw [List.length_map, List.length_map, hnodes, hedges]
  simp only [String.join_append, String.join_cons, String.join_nil, String.append_empty,
    String.append_assoc]

theorem dangling_isEmpty : (Session.dangling store).isEmpty = true ↔ store.firstGap? = none := by
  rw [List.isEmpty_iff, Session.dangling, List.filter_eq_nil_iff, Store.firstGap?_eq_none]
  refine forall₂_congr fun e _ => ?_
  rw [Store.isOk_resolve]
  cases store.gap? e <;> simp

theorem EdgeRow.of_link {e : Edge} {l : Link} (h : store.link? e = some l) :
    EdgeRow.of store e = .link (LinkRow.of l) := by
  obtain rfl := (Store.link?_eq_some.mp h).1
  rw [EdgeRow.of, Store.resolve_eq_ok_iff_link?.mpr h]
  rfl

theorem EdgeRow.of_gap {e : Edge} {g : Gap} (h : store.gap? e = some g) :
    EdgeRow.of store e = .dangling e.label g.error.message := by
  have hfailure := store.failure?_resolve e
  rw [h] at hfailure
  rw [EdgeRow.of, failure?_eq_some.mp hfailure]

theorem exists_link {e : Edge} (h : store.gap? e = none) : ∃ l, store.link? e = some l := by
  obtain ⟨hstart, hfinish⟩ := Store.gap?_eq_none.mp h
  obtain ⟨start, hstart⟩ := Registry.exists_get?_of_has (Registry.has_iff.mpr hstart)
  obtain ⟨finish, hfinish⟩ := Registry.exists_get?_of_has (Registry.has_iff.mpr hfinish)
  exact ⟨⟨e, start, finish⟩, Store.link?_eq_some.mpr ⟨rfl, hstart, hfinish⟩⟩

/-- Edges that have their nodes are shown as links. -/
theorem rows_of_whole {es : List Edge} (h : ∀ e ∈ es, store.gap? e = none) :
    es.map (EdgeRow.of store) = (es.filterMap store.link?).map fun l => .link (LinkRow.of l) := by
  induction es with
  | nil => rfl
  | cons e es ih =>
    obtain ⟨he, hes⟩ := List.forall_mem_cons.mp h
    obtain ⟨l, hlink⟩ := exists_link he
    rw [List.map_cons, ih hes, EdgeRow.of_link hlink, List.filterMap_cons_some hlink, List.map_cons]

end Rows

section WholeLines
variable {store : Store}

theorem whole_count (n : Nat) : Text.Whole (toString n).toList := by
  rw [Nat.toString_eq_repr, Nat.repr_eq_ofList_toDigits, String.toList_ofList]
  exact (Text.printable_toDigits n).whole

theorem whole_nodeLine {n : Node} :
    Text.Whole (Session.nodeLine n).toList ↔ Text.Whole n.label.toList := by
  have hwords : ∀ w ∈ ["  - ", ": type ", ", input ", ", query ", ", ", " properties\n", "s"],
      Text.Whole w.toList := by decide
  have hcount := whole_count n.properties.length
  simp only [List.forall_mem_cons] at hwords
  unfold Session.nodeLine Node.queryName
  -- The digits would be worked out again for every word that is compared with them.
  generalize toString n.properties.length = count at hcount ⊢
  simp only [String.toList_append, Text.whole_append, hwords, hcount, Node.whole_typeName,
    Node.whole_inputName, and_true, true_and, and_self]

theorem whole_edgeLine {e : Edge} {l : Link} (h : store.link? e = some l) :
    Text.Whole (Session.edgeLine e (store.provider.resolve e)).toList ↔ l.Labelled := by
  have hwords : ∀ w ∈ ["  - ", ": ", " -> ", ", ", " / ", "\n"], Text.Whole w.toList := by decide
  simp only [List.forall_mem_cons] at hwords
  obtain ⟨rfl, -⟩ := Store.link?_eq_some.mp h
  simp only [Session.edgeLine, Store.resolve_eq_ok_iff_link?.mpr h, String.toList_append,
    Text.whole_append, hwords, Link.whole_edgeName, Link.whole_connectionName, true_and, and_true]
  exact ⟨fun hl => hl.2.2, fun hl => ⟨hl.1.2, ⟨⟨hl.1.1, hl.2⟩, hl⟩, hl⟩⟩

/-- The lines of an edge that lacks a node name the edge and the node by their ids. -/
theorem whole_edgeLine_of_gap {e : Edge} {g : Gap} (h : store.gap? e = some g)
    (hlabel : Text.Whole e.label.toList) (hid : Text.Whole e.id.toList)
    (hnode : Text.Whole g.nodeId.toList) :
    Text.Whole (Session.edgeLine e (store.provider.resolve e)).toList := by
  have hwords : ∀ w ∈ ["  - ", ": ", "❌ ", "\n"], Text.Whole w.toList := by decide
  have hparts : ∀ w ∈ ["Edge '", "' references missing ", " node '", "'"], Text.Whole w.toList := by
    decide
  have hrole : Text.Whole g.role.name.toList := by
    cases g.role <;> decide
  have hresolve : store.provider.resolve e = .error g.error := by
    have hfailure := store.failure?_resolve e
    rw [h] at hfailure
    exact failure?_eq_some.mp hfailure
  simp only [List.forall_mem_cons] at hwords hparts
  have hmessage : Text.Whole g.error.message.toList := by
    rw [Gap.error, Store.edgeId_of_gap h]
    unfold GenerationError.message
    simp only [String.toList_append, Text.whole_append]
    exact ⟨⟨⟨⟨⟨⟨hparts.1, hid⟩, hparts.2.1⟩, hrole⟩, hparts.2.2.1⟩, hnode⟩, hparts.2.2.2.1⟩
  rw [hresolve, Session.edgeLine]
  simp only [String.toList_append, Text.whole_append, hwords, hlabel, hmessage, and_self]

theorem wholeLines_summary_iff : WholeLines (Session.summary store) ↔
    (∀ n ∈ store.allNodes, Text.Whole n.label.toList) ∧
      ∀ e ∈ store.allEdges,
        Text.Whole (Session.edgeLine e (store.provider.resolve e)).toList := by
  have hwords : ∀ w ∈ ["📋 Nodes (", "\n🔗 Edges (", "):\n"], Text.Whole w.toList := by decide
  simp only [List.forall_mem_cons] at hwords
  simp only [Session.summary, wholeLines_append, wholeLines_cons, wholeLines_nil,
    String.toList_append, Text.whole_append, hwords, whole_count, true_and, and_true]
  rw [WholeLines, WholeLines, List.forall_mem_map, List.forall_mem_map]
  simp only [whole_nodeLine]

/-- What is shown of a graph whose edges have their nodes are its labels, and names made of them. -/
theorem wholeLines_summary_of_whole (hgap : store.firstGap? = none) :
    WholeLines (Session.summary store) ↔ store.Labelled := by
  rw [wholeLines_summary_iff]
  constructor
  · rintro ⟨hnodes, hedges⟩
    refine ⟨hnodes, fun e he => ?_⟩
    obtain ⟨l, hl⟩ := exists_link (Store.firstGap?_eq_none.mp hgap e he)
    obtain ⟨rfl, -⟩ := Store.link?_eq_some.mp hl
    exact ((whole_edgeLine hl).mp (hedges _ he)).1.2
  · intro h
    refine ⟨h.nodes, fun e he => ?_⟩
    obtain ⟨l, hl⟩ := exists_link (Store.firstGap?_eq_none.mp hgap e he)
    exact (whole_edgeLine hl).mpr (h.link (List.mem_filterMap.mpr ⟨e, he, hl⟩))

/-- Labels and ids that can be shown whether or not an edge has its nodes. -/
structure Shown (store : Store) : Prop where
  labels : store.Labelled
  ids : ∀ e ∈ store.allEdges, ∀ id ∈ [e.id, e.startId, e.endId], Text.Whole id.toList

theorem wholeLines_summary_of_shown (h : Shown store) : WholeLines (Session.summary store) := by
  refine wholeLines_summary_iff.mpr ⟨h.labels.nodes, fun e he => ?_⟩
  cases hgap : store.gap? e with
  | none =>
    obtain ⟨l, hl⟩ := exists_link hgap
    exact (whole_edgeLine hl).mpr (h.labels.link (List.mem_filterMap.mpr ⟨e, he, hl⟩))
  | some g =>
    have hids := h.ids e he
    refine whole_edgeLine_of_gap hgap (h.labels.edges e he) (hids e.id (by simp)) ?_
    rcases Store.nodeId_of_gap hgap with hstart | hfinish
    · exact hstart ▸ hids e.startId (by simp)
    · exact hfinish ▸ hids e.endId (by simp)

end WholeLines

/-- The headings that go with the names in rows. -/
def headings (nodes : List NodeRow) (links : List LinkRow) : List Heading :=
  nodes.flatMap (fun r => [.type r.type (some "Node"), .input r.input]) ++
    links.map (fun r => .type r.edge (some "Edge")) ++
    links.map fun r => .type r.connection (some "Connection")

/-- The headings of a document, with those that every document has. -/
def allHeadings (nodes : List NodeRow) (links : List LinkRow) : List Heading :=
  fixedDeclarations.map Declaration.heading ++ headings nodes links ++
    [.type "Query", .type "Mutation", .schema]

theorem headings_outline (store : Store) :
    store.outline.generated.map (·.heading) =
      headings (store.allNodes.map NodeRow.of) (store.links.map LinkRow.of) ++
        [.type "Query", .type "Mutation"] := by
  simp only [Store.outline, Outline.of, Outline.generated, headings, List.map_append,
    List.map_flatMap, List.flatMap_map, List.map_map]
  rfl

/-- Options that send the document of a graph to the output, whatever names collide. -/
structure Plain (settings : Settings) (graph : String) (strict : Bool) (o : GenerateOptions) :
    Prop where
  graph : o.graph = graph
  strict : o.strict = strict
  output : Session.outputOf settings o = none
  policy : (Session.diagnosisOf settings o).collisions ≠ .error

section Runs
variable {w : Surroundings} {settings : Settings} {graph : String} {v : Value} {store : Store}
  {o : GenerateOptions} {arguments : List String} {strict : Bool}
  (h : Ready w settings graph v) (hload : (Load.document false 0 v).outcome = .ok store)
  (ho : Plain settings graph strict o) (hrequest : Request.ofArguments arguments = .generate o)
include h hload ho hrequest

/-- A graph whose edges have their nodes has its document generated, strictly or not, if and only if
that can be written. -/
theorem run_whole (hgap : store.firstGap? = none) :
    ((run w arguments).exit = .code 0 ↔
      store.Labelled ∧ ∀ p ∈ store.properties, p.Writable) ∧
      ((run w arguments).exit = .code 0 → (run w arguments).out = store.outline.text ++ "\n") := by
  obtain ⟨rfl, rfl, hout, hpolicy⟩ := ho
  have hloaded : (Load.document o.strict 0 v).outcome = .ok store := by
    cases o.strict with
    | false => exact hload
    | true => rw [Load.strict_outcome hload, hgap]
  have hvalid := Store.valid_of_document hload
  have hwhole := Store.whole_text_iff hvalid
    (Provider.resolveAll_edges (Store.resolveAll_of_firstGap? hgap))
  rw [Store.whole_iff] at hwhole
  by_cases hdeclarable : ∀ p ∈ store.properties, p.Declarable
  · obtain ⟨g, hg⟩ := Store.exists_generate_of_linked (Store.linked_iff.mpr hgap) hdeclarable hpolicy
    have hwritable : (store.Labelled ∧ ∀ p ∈ store.properties, p.Writable) ↔
        Text.Whole g.document.toList := by
      rw [(Store.generate_outline hg).2.2, hwhole]
      refine and_congr_right fun _ => forall₂_congr fun p hp => ?_
      exact ⟨fun h => h.whole, fun h => ⟨(hdeclarable p hp).values, h⟩⟩
    rw [hwritable, ← (Store.generate_outline hg).2.2]
    by_cases hdocument : Text.Whole g.document.toList
    · obtain ⟨hexit, hshown⟩ := run_generate_ok h hrequest hloaded hout hg hdocument
      exact ⟨iff_of_true hexit hdocument, fun _ => hshown⟩
    · have hexit := run_generate_unwritten h hrequest hloaded hout hg hdocument
      exact ⟨iff_of_false hexit hdocument, fun hzero => absurd hzero hexit⟩
  · obtain ⟨e, he⟩ := Option.ne_none_iff_exists'.mp (mt firstFault?_eq_none.mp hdeclarable)
    have hgen : ((Session.diagnosisOf settings o).generate store.provider).outcome =
        .error (.field e) := by
      rw [Store.generate_eq, hgap, he]
      exact if_neg fun hforbidden => hpolicy hforbidden.1
    obtain ⟨log, hrun⟩ := run_generate_error h hrequest hloaded hgen
    have hexit : (run w arguments).exit ≠ .code 0 := hrun ▸ halted_exit _ _ _
    refine ⟨iff_of_false hexit fun hwritable => hdeclarable fun p hp => ?_,
      fun hzero => absurd hzero hexit⟩
    exact ⟨(hvalid.of_mem_properties hp).type, (hwritable.2 p hp).limits⟩

/-- A graph with a gap has none generated. A lenient command tells of the gap. -/
theorem run_gap {g : Gap} (hgap : store.firstGap? = some g) :
    (run w arguments).exit = .code 1 ∧ (strict = false →
      ∃ log, (run w arguments).err = log ++ ("❌ Error: " ++ g.error.message ++ "\n")) := by
  obtain ⟨rfl, rfl, -, -⟩ := ho
  have hgen : ((Session.diagnosisOf settings o).generate store.provider).outcome =
      .error g.error := by
    rw [Store.generate_eq, hgap]
  -- A lenient load leaves it to generation to find the gap, a strict one stops at it.
  cases hs : o.strict with
  | false =>
    rw [← hs] at hload
    obtain ⟨log, hrun⟩ := run_generate_error h hrequest hload hgen
    rw [hrun]
    exact ⟨rfl, fun _ => ⟨log, rfl⟩⟩
  | true =>
    have hrefused : (Load.document o.strict 0 v).outcome = .error (.store (.noNode g.nodeId)) := by
      rw [hs, Load.strict_outcome hload, hgap]
    exact ⟨run_generate_refused h hrequest hrefused, fun hfalse => absurd hfalse (by simp)⟩

end Runs

/-- What is shown and written of a graph that is whole: all links, under the names that the document
declares. Their headings are lines of the document; if the texts of the graph are single lines, they
open all blocks but the ones that every document has. -/
def Named (store : Store) (shown written : String) : Prop :=
  ∃ (nodes : List NodeRow) (links : List LinkRow), shown = listing nodes (links.map .link) ∧
    written = store.outline.text ++ "\n" ∧
    store.outline.generated.map (·.heading) =
      headings nodes links ++ [.type "Query", .type "Mutation"] ∧
    ((headings nodes links).map (·.text.toList)).Sublist
      (Text.splitLines store.outline.text.toList) ∧
    (store.OneLine → Text.openings store.outline.text =
      (allHeadings nodes links).map (·.text.toList))

/-- What is shown and told of a graph with a gap: the first edge that is shown without its nodes is
the one that generation fails on. -/
def Halted (store : Store) (d : Diagnosis) (shown told : String) : Prop :=
  ∃ (nodes : List NodeRow) (links : List LinkRow) (rows : List EdgeRow)
    (before : List Edge) (e : Edge) (after : List Edge) (nodeId : String) (role : Role),
    store.allEdges = before ++ e :: after ∧ links.length = before.length ∧
    (d.generate store.provider).outcome = .error (.missingEndpoint e.id nodeId role) ∧
    shown = listing nodes (links.map .link ++
      .dangling e.label (GenerationError.missingEndpoint e.id nodeId role).message :: rows) ∧
    ∃ log, told = log ++
      ("❌ Error: " ++ (GenerationError.missingEndpoint e.id nodeId role).message ++ "\n")

/-- What the outcomes of an inspection, of a lenient and of a strict generation have to do with each
other. An inspection does not show the values of properties, so that one which cannot be written stops
generation and not the inspection. Labels and ids with halves stop both. -/
structure Agree (store : Store) (d : Diagnosis) (shown lenient strict : Outcome) : Prop where
  inspected : lenient.exit = .code 0 ↔
    shown.exit = .code 0 ∧ ∀ p ∈ store.properties, p.Writable
  checked : lenient.exit = .code 0 ↔ strict.exit = .code 0
  whole : lenient.exit = .code 0 →
    strict.out = lenient.out ∧ Named store shown.out lenient.out
  ended : Shown store → shown.exit = .code 0 ∨ shown.exit = .code 1
  gap : shown.exit = .code 1 → lenient.exit = .code 1 ∧ strict.exit = .code 1 ∧
    Halted store d shown.out lenient.err

theorem openings_outline {store : Store} (hvalid : store.Valid) (hlines : store.OneLine) :
    Text.openings store.outline.text = (allHeadings (store.allNodes.map NodeRow.of)
      (store.links.map LinkRow.of)).map (·.text.toList) := by
  have hclean : ∀ d ∈ store.outline.declarations, d.Clean := Outline.clean_declarations
    (fun n hn => ⟨hvalid.nodes n hn, hlines.nodes n hn⟩)
    (fun l hl => ⟨hvalid.edges _ (Store.edge_mem_of_mem_links hl),
      hlines.edges _ (Store.edge_mem_of_mem_links hl)⟩)
    fun _ _ _ hl => Store.mem_of_mem_knownFrom hl
  have hheadings : store.outline.declarations.map (·.heading) =
      allHeadings (store.allNodes.map NodeRow.of) (store.links.map LinkRow.of) := by
    rw [Outline.declarations, List.map_append, List.map_append, headings_outline, allHeadings]
    simp only [List.append_assoc]
    rfl
  rw [Outline.openings_text hclean, ← hheadings, List.map_map]
  rfl

theorem named_of_whole {store : Store} (hvalid : store.Valid) (hgap : store.firstGap? = none) :
    Named store (String.join (Session.summary store)) (store.outline.text ++ "\n") := by
  have hplain : ∀ d ∈ store.outline.generated, d.heading.Plain := fun d hd =>
    Outline.plain_headings d (List.mem_append_left _ (List.mem_append_right _ hd))
  have hheadings := headings_outline store
  refine ⟨store.allNodes.map NodeRow.of, store.links.map LinkRow.of, ?_, rfl, hheadings, ?_,
    openings_outline hvalid⟩
  · rw [summary_eq, rows_of_whole (Store.firstGap?_eq_none.mp hgap), List.map_map]
    rfl
  · have hlines := Outline.headings_sublist hplain
    have hmap : store.outline.generated.map (·.heading.text.toList) =
        (store.outline.generated.map (·.heading)).map (·.text.toList) := by
      rw [List.map_map]
      rfl
    rw [hmap, hheadings, List.map_append] at hlines
    exact (List.sublist_append_left ..).trans hlines

theorem halted_of_gap {store : Store} {d : Diagnosis} {g : Gap} {told : String}
    (hgap : store.firstGap? = some g)
    (htold : ∃ log, told = log ++ ("❌ Error: " ++ g.error.message ++ "\n")) :
    Halted store d (String.join (Session.summary store)) told := by
  obtain ⟨before, e, after, place, gap, first⟩ := Store.firstGap?_eq_some.mp hgap
  have hrows := rows_of_whole first
  have herror : g.error = .missingEndpoint e.id g.nodeId g.role := by
    rw [Gap.error, Store.edgeId_of_gap gap]
  have hgen : (d.generate store.provider).outcome = .error g.error := by
    rw [Store.generate_eq, hgap]
  refine ⟨store.allNodes.map NodeRow.of, (before.filterMap store.link?).map LinkRow.of,
    after.map (EdgeRow.of store), before, e, after, g.nodeId, g.role, place, ?_, ?_, ?_, ?_⟩
  · have hlength := congrArg List.length hrows
    rw [List.length_map, List.length_map] at hlength
    rw [List.length_map, hlength]
  · rw [hgen, herror]
  · rw [summary_eq, place, List.map_append, List.map_cons, hrows, EdgeRow.of_gap gap, herror,
      List.map_map]
    rfl
  · rw [← herror]
    exact htold

/-- The commands agree on every graph that can be loaded. -/
theorem inspect_agrees {w : Surroundings} {settings : Settings} {graph : String} {v : Value}
    {store : Store} {a b c : List String} {lenient strict : GenerateOptions}
    (h : Ready w settings graph v) (hload : (Load.document false 0 v).outcome = .ok store)
    (ha : Request.ofArguments a = .inspect graph)
    (hb : Request.ofArguments b = .generate lenient) (hlenient : Plain settings graph false lenient)
    (hc : Request.ofArguments c = .generate strict) (hstrict : Plain settings graph true strict) :
    Agree store (Session.diagnosisOf settings lenient) (run w a) (run w b) (run w c) := by
  have hvalid := Store.valid_of_document hload
  have hout (hlines : WholeLines (Session.summary store)) :
      (run w a).out = String.join (Session.summary store) := (run_inspect h ha hload hlines).2
  have hexit (n : Nat) := run_inspect_exit_iff h ha hload (n := n)
  -- The first gap of the store, or that there is none, decides all three runs.
  cases hgap : store.firstGap? with
  | none =>
    obtain ⟨hgenerated, hwritten⟩ := run_whole h hload hlenient hb hgap
    obtain ⟨hgenerated', hwritten'⟩ := run_whole h hload hstrict hc hgap
    have hchecked : (run w b).exit = .code 0 ↔ (run w c).exit = .code 0 :=
      hgenerated.trans hgenerated'.symm
    have hlines := wholeLines_summary_of_whole hgap
    simp only [dangling_isEmpty.mpr hgap, if_pos] at hexit
    have hshown : (run w a).exit = .code 0 ↔ store.Labelled := by
      rw [hexit, and_iff_left rfl, hlines]
    constructor
    case inspected => rw [hshown, hgenerated]
    case checked => exact hchecked
    case whole =>
      intro hzero
      rw [hwritten hzero, hwritten' (hchecked.mp hzero),
        hout (hlines.mpr (hgenerated.mp hzero).1)]
      exact ⟨rfl, named_of_whole hvalid hgap⟩
    case ended => exact fun h => .inl (hshown.mpr h.labels)
    case gap => exact fun hone => absurd ((hexit 1).mp hone).2 (by decide)
  | some g =>
    obtain ⟨hhalted, htold⟩ := run_gap h hload hlenient hb hgap
    obtain ⟨hhalted', -⟩ := run_gap h hload hstrict hc hgap
    have hdangling : (Session.dangling store).isEmpty = false := by
      rw [← Bool.not_eq_true, dangling_isEmpty, hgap]
      simp
    simp only [hdangling, if_neg Bool.false_ne_true] at hexit
    have hshown : (run w a).exit ≠ .code 0 := fun hzero => absurd ((hexit 0).mp hzero).2 (by decide)
    constructor
    case inspected => simp [hhalted, hshown]
    case checked => rw [hhalted, hhalted']
    case whole => exact fun hzero => absurd (hhalted.symm.trans hzero) (by simp)
    case ended => exact fun h => .inr ((hexit 1).mpr ⟨wholeLines_summary_of_shown h, rfl⟩)
    case gap =>
      intro hone
      rw [hout ((hexit 1).mp hone).1]
      exact ⟨hhalted, hhalted', halted_of_gap hgap (htold rfl)⟩

/-- A file with a person and an edge that leads back to them. -/
def lonerText : String :=
  "\x7b\"edges\":[\x7b\"id\":\"k\",\"label\":\"knows\",\"startNodeID\":\"p\"," ++
    "\"endNodeID\":\"p\"\x7d],\"nodes\":[\x7b\"id\":\"p\",\"label\":\"person\"\x7d]\x7d"

def loner : Value := .object [
  ("edges", .list [.object [("id", .text "k"), ("label", .text "knows"),
    ("startNodeID", .text "p"), ("endNodeID", .text "p")]]),
  ("nodes", .list [.object [("id", .text "p"), ("label", .text "person")]])]

def lonerBytes : Text.Bytes := lonerText.toList.map fun c => c.toNat.toUInt8

def lonerDesk : Surroundings where
  disk := { entries := [(["g.json"], .file lonerBytes)] }

theorem read_loner : Json.read lonerText.toList = .ok loner := by decide +kernel

theorem readGraph_loner : lonerDesk.disk.readGraph (Path.ofString "g.json") = .ok loner :=
  readGraph_ascii Session.sound_path rfl (by decide) read_loner

theorem ready_loner : Ready lonerDesk {} "g.json" loner := ⟨rfl, rfl, readGraph_loner⟩

theorem inspect_agrees_loner :
    ∃ store, (Load.document false 0 loner).outcome = .ok store ∧
      Agree store {} (run lonerDesk ["inspect", "g.json"]) (run lonerDesk ["generate", "g.json"])
        (run lonerDesk ["generate", "--strict", "g.json"]) := by
  have hload : (Load.document false 0 loner).outcome = .ok _ := rfl
  have hplain (strict : Bool) : Plain {} "g.json" strict { graph := "g.json", strict } :=
    ⟨rfl, rfl, rfl, CollisionPolicy.noConfusion⟩
  exact ⟨_, hload, inspect_agrees ready_loner hload rfl rfl (hplain false) rfl (hplain true)⟩

/-- A file with a person whose name is described by half of a surrogate pair. -/
def halfText : String :=
  "\x7b\"nodes\":[\x7b\"id\":\"p\",\"label\":\"person\",\"properties\":" ++
    "[\x7b\"key\":\"name\",\"description\":\"\\ud800\"\x7d]\x7d]\x7d"

def half : String := String.ofList [Text.charOf 0xd800]

def described : Value := .object [
  ("nodes", .list [.object [("id", .text "p"), ("label", .text "person"),
    ("properties", .list [.object [("key", .text "name"), ("description", .text half)]])]])]

def halfBytes : Text.Bytes := halfText.toList.map fun c => c.toNat.toUInt8

def halfDesk : Surroundings where
  disk := { entries := [(["g.json"], .file halfBytes)] }

def describedStore : Store where
  nodes := [("p", { id := "p", label := "person", properties :=
    [{ key := "name", description := .text half }] })]

theorem read_half : Json.read halfText.toList = .ok described := by decide +kernel

theorem readGraph_half : halfDesk.disk.readGraph (Path.ofString "g.json") = .ok described :=
  readGraph_ascii Session.sound_path rfl (by decide) read_half

theorem ready_half : Ready halfDesk {} "g.json" described := ⟨rfl, rfl, readGraph_half⟩

/-- The half is not shown by an inspection, and no output can have the document. -/
theorem inspect_half :
    Ready halfDesk {} "g.json" described ∧
      (Load.document false 0 described).outcome = .ok describedStore ∧
      (run halfDesk ["inspect", "g.json"]).exit = .code 0 ∧
      (run halfDesk ["generate", "g.json"]).exit ≠ .code 0 ∧
      (run halfDesk ["generate", "--strict", "g.json"]).exit ≠ .code 0 := by
  have hload : (Load.document false 0 described).outcome = .ok describedStore := rfl
  have hgap : describedStore.firstGap? = none := rfl
  have hplain (strict : Bool) : Plain {} "g.json" strict { graph := "g.json", strict } :=
    ⟨rfl, rfl, rfl, CollisionPolicy.noConfusion⟩
  have ha : Request.ofArguments ["inspect", "g.json"] = .inspect "g.json" := rfl
  have hb : Request.ofArguments ["generate", "g.json"] =
      .generate { graph := "g.json", strict := false } := rfl
  have hc : Request.ofArguments ["generate", "--strict", "g.json"] =
      .generate { graph := "g.json", strict := true } := rfl
  have hlabels : describedStore.Labelled := by
    constructor <;> decide
  have hunwritable : ¬(describedStore.Labelled ∧ ∀ p ∈ describedStore.properties, p.Writable) := by
    rintro ⟨-, hall⟩
    have hhalf : ¬Text.Whole half.toList := by decide
    exact hhalf (hall _ (List.mem_singleton_self _)).whole.description
  have hinspected := run_inspect ready_half ha hload
    ((wholeLines_summary_of_whole hgap).mpr hlabels)
  exact ⟨ready_half, hload, hinspected.1,
    mt (run_whole ready_half hload (hplain false) hb hgap).1.mp hunwritable,
    mt (run_whole ready_half hload (hplain true) hc hgap).1.mp hunwritable⟩

end GraphSchema.CommandLine
