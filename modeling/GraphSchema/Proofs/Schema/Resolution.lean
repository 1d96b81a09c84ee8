import GraphSchema.Proofs.Graph.Keyed
import GraphSchema.Schema.Generation
import Mathlib.Data.List.Basic

/-! Resolved edges, the links that start at each node, and what a plan consists of. -/
namespace GraphSchema
namespace Provider

section EachOk
variable {ε α β : Type} {step : α → Except ε β} {as : List α} {bs : List β}

theorem eachOk_eq_ok : eachOk step as = .ok bs ↔ as.map step = bs.map .ok := by
  induction as generalizing bs with
  | nil => cases bs <;> simp [eachOk]
  | cons a as ih =>
    rw [eachOk, List.map_cons]
    cases step a with
    | error e => cases bs <;> simp
    | ok b =>
      cases hr : eachOk step as with
      | error e =>
        have hno : ∀ cs : List β, as.map step ≠ cs.map .ok := by
          intro cs hcs
          simp [ih.mpr hcs] at hr
        cases bs <;> simp [hno]
      | ok cs =>
        have hinj : Function.Injective (List.map (Except.ok : β → Except ε β)) :=
          List.map_injective_iff.mpr fun _ _ h => Except.ok.inj h
        cases bs with
        | nil => simp
        | cons c bs => simp [ih.mp hr, hinj.eq_iff]

/-- A step that gives what a partial function gives, and fails nowhere on the list. -/
theorem eachOk_filterMap {f : α → Option β}
    (h : ∀ a ∈ as, ∃ b, f a = some b ∧ step a = .ok b) :
    eachOk step as = .ok (as.filterMap f) := by
  induction as with
  | nil => rfl
  | cons a as ih =>
    obtain ⟨b, hf, hs⟩ := h a (List.mem_cons_self ..)
    have hrest := ih fun c hc => h c (List.mem_cons_of_mem _ hc)
    simp [eachOk, hs, hf, hrest]

/-- What each step does to its item, the whole does to the list. -/
theorem eachOk_map_eq {γ : Type} {f : β → γ} {g : α → γ} (h : eachOk step as = .ok bs)
    (hstep : ∀ a b, step a = .ok b → f b = g a) : bs.map f = as.map g := by
  induction as generalizing bs with
  | nil =>
    obtain rfl := Except.ok.inj h
    rfl
  | cons a as ih =>
    have hm := eachOk_eq_ok.mp h
    cases bs with
    | nil => simp at hm
    | cons b bs =>
      rw [List.map_cons, List.map_cons, List.cons.injEq] at hm
      rw [List.map_cons, List.map_cons, hstep a b hm.1, ih (eachOk_eq_ok.mpr hm.2)]

theorem eq_filterMap_of_eachOk {f : α → Option β} (h : eachOk step as = .ok bs)
    (hstep : ∀ a b, step a = .ok b → f a = some b) : bs = as.filterMap f := by
  have hm : bs.map some = as.map f := eachOk_map_eq h fun a b hab => (hstep a b hab).symm
  calc bs = (bs.map some).filterMap id := by rw [List.filterMap_map]; exact List.filterMap_some.symm
    _ = as.filterMap f := by rw [hm, List.filterMap_map]; rfl

theorem eachOk_map {f : α → β} (h : ∀ a ∈ as, step a = .ok (f a)) :
    eachOk step as = .ok (as.map f) := by
  rw [eachOk_eq_ok, List.map_map]
  exact List.map_congr_left h

theorem eachOk_congr {other : α → Except ε β} (h : ∀ a ∈ as, step a = other a) :
    eachOk step as = eachOk other as := by
  induction as with
  | nil => rfl
  | cons a as ih =>
    have hrest := ih fun b hb => h b (List.mem_cons_of_mem _ hb)
    rw [eachOk, eachOk, h a (List.mem_cons_self ..), hrest]

/-- A step that succeeds under a condition on its item, and then with the value of a function. -/
theorem eachOk_eq_ok_map {P : α → Prop} {f : α → β}
    (hstep : ∀ a b, step a = .ok b ↔ P a ∧ b = f a) :
    eachOk step as = .ok bs ↔ (∀ a ∈ as, P a) ∧ bs = as.map f := by
  constructor
  · intro h
    have hbs : bs.map id = as.map f := eachOk_map_eq h fun a b hab => ((hstep a b).mp hab).2
    refine ⟨fun a ha => ?_, by rw [← hbs, List.map_id]⟩
    have hmem : step a ∈ bs.map .ok := by
      rw [← eachOk_eq_ok.mp h]
      exact List.mem_map_of_mem ha
    obtain ⟨b, -, hb⟩ := List.mem_map.mp hmem
    exact ((hstep a b).mp hb.symm).1
  · rintro ⟨hP, rfl⟩
    exact eachOk_map fun a ha => (hstep a (f a)).mpr ⟨hP a ha, rfl⟩

end EachOk

theorem resolve_eq_ok {p : Provider} {e : Edge} {l : Link} :
    p.resolve e = .ok l ↔
      l.edge = e ∧ p.node? e.startId = some l.start ∧ p.node? e.endId = some l.finish := by
  obtain ⟨edge, start, finish⟩ := l
  rw [resolve]
  cases p.node? e.startId <;> cases p.node? e.endId <;> simp [eq_comm]

theorem resolveAll_edges {p : Provider} {es : List Edge} {links : List Link}
    (h : p.resolveAll es = .ok links) : links.map Link.edge = es := by
  rw [eachOk_map_eq h fun e l hl => (resolve_eq_ok.mp hl).1]
  exact List.map_id es

section LastWithId
variable {links : List Link} {id : String} {l : Link}

theorem mem_of_lastWithId (h : lastWithId links id = some l) : l ∈ links :=
  List.mem_reverse.mp (List.mem_of_find?_eq_some h)

theorem exists_lastWithId (hl : l ∈ links) : ∃ m, lastWithId links l.edge.id = some m := by
  apply Option.isSome_iff_exists.mp
  rw [lastWithId, List.find?_isSome]
  exact ⟨l, List.mem_reverse.mpr hl, by simp⟩

/-- With distinct edge ids the last link with an id is the only one. -/
theorem lastWithId_own (hd : (links.map fun l => l.edge.id).Nodup) (hl : l ∈ links) :
    lastWithId links l.edge.id = some l := by
  obtain ⟨m, hm⟩ := exists_lastWithId hl
  have hid : m.edge.id = l.edge.id := by simpa using List.find?_some hm
  rw [hm, List.inj_on_of_nodup_map hd (mem_of_lastWithId hm) hl hid]

end LastWithId
end Provider

/-- Look-ups by the id of a node, in a table whose entries depend on that id alone. -/
theorem Outgoing.of_map {f : String → List Link} {nodes : List Node} {n : Node}
    (hn : n ∈ nodes) : Outgoing.of (nodes.map fun m => (m.id, f m.id)) n = f n.id := by
  induction nodes with
  | nil => simp at hn
  | cons m ms ih =>
    rw [Outgoing.of, List.map_cons, List.lookup_cons]
    by_cases hid : n.id = m.id
    · simp [hid]
    · have hms : n ∈ ms := (List.mem_cons.mp hn).resolve_left fun h => hid (h ▸ rfl)
      rw [beq_false_of_ne hid]
      exact ih hms

namespace Store
open Provider

/-- The link of an edge whose two nodes are there. -/
def link? (s : Store) (e : Edge) : Option Link :=
  match s.getNode? e.startId, s.getNode? e.endId with
  | some start, some finish => some ⟨e, start, finish⟩
  | _, _ => none

def links (s : Store) : List Link := s.allEdges.filterMap s.link?

variable {s : Store} {links : List Link} {outgoing : Outgoing}

theorem link?_eq_some {e : Edge} {l : Link} :
    s.link? e = some l ↔
      l.edge = e ∧ s.getNode? e.startId = some l.start ∧ s.getNode? e.endId = some l.finish := by
  obtain ⟨edge, start, finish⟩ := l
  rw [link?]
  cases s.getNode? e.startId <;> cases s.getNode? e.endId <;> simp [eq_comm]

theorem edge_mem_of_mem_links {l : Link} (hl : l ∈ s.links) : l.edge ∈ s.allEdges := by
  obtain ⟨e, he, hlink⟩ := List.mem_filterMap.mp hl
  rw [(link?_eq_some.mp hlink).1]
  exact he

theorem ends_mem_of_mem_links {l : Link} (hl : l ∈ s.links) :
    l.start ∈ s.allNodes ∧ l.finish ∈ s.allNodes := by
  obtain ⟨e, -, hlink⟩ := List.mem_filterMap.mp hl
  obtain ⟨-, hstart, hfinish⟩ := link?_eq_some.mp hlink
  exact ⟨Registry.mem_entities_of_get? hstart, Registry.mem_entities_of_get? hfinish⟩

theorem resolve_eq_ok_iff_link? {e : Edge} {l : Link} :
    s.provider.resolve e = .ok l ↔ s.link? e = some l :=
  resolve_eq_ok.trans link?_eq_some.symm

/-- Where every edge has its link, resolution gives these links in the order of the edges. -/
theorem resolveAll_of_link? (h : ∀ e ∈ s.allEdges, ∃ l, s.link? e = some l) :
    s.provider.resolveAll s.allEdges = .ok s.links := by
  apply eachOk_filterMap
  intro e he
  obtain ⟨l, hl⟩ := h e he
  exact ⟨l, hl, resolve_eq_ok_iff_link?.mpr hl⟩

theorem eq_links_of_resolveAll (h : s.provider.resolveAll s.allEdges = .ok links) :
    links = s.links :=
  eq_filterMap_of_eachOk h fun _ _ he => resolve_eq_ok_iff_link?.mp he

/-- The link that stands for an edge among those that were resolved, for each edge that starts at
a node. -/
def knownFrom (s : Store) (links : List Link) (id : String) : List Link :=
  (s.startingAt id).filterMap fun e => lastWithId links e.id

theorem outgoing_eq (h : s.provider.resolveAll s.allEdges = .ok links) :
    s.provider.outgoing links =
      .ok (s.allNodes.map fun n => (n.id, s.knownFrom links n.id)) := by
  apply eachOk_map
  intro n _
  have hknown : eachOk (s.provider.resolveKnown links) (s.startingAt n.id) =
      .ok (s.knownFrom links n.id) := by
    apply eachOk_filterMap
    intro e he
    have hall : e ∈ links.map Link.edge := by
      rw [resolveAll_edges h]
      exact List.mem_of_mem_filter he
    obtain ⟨l, hl, rfl⟩ := List.mem_map.mp hall
    obtain ⟨m, hm⟩ := exists_lastWithId hl
    exact ⟨m, hm, by rw [resolveKnown, hm]⟩
  change Except.map _ (eachOk (s.provider.resolveKnown links) (s.startingAt n.id)) = _
  rw [hknown]
  rfl

theorem outgoing_of (h : s.provider.resolveAll s.allEdges = .ok links)
    (ho : s.provider.outgoing links = .ok outgoing) {n : Node} (hn : n ∈ s.allNodes) :
    outgoing.of n = s.knownFrom links n.id := by
  obtain rfl := Except.ok.inj ((outgoing_eq h).symm.trans ho)
  exact Outgoing.of_map hn

theorem mem_of_mem_knownFrom {id : String} {l : Link} (hl : l ∈ s.knownFrom links id) :
    l ∈ links := by
  obtain ⟨e, -, he⟩ := List.mem_filterMap.mp hl
  exact mem_of_lastWithId he

/-- With distinct edge ids the table holds the links that start at each node, in order. -/
theorem knownFrom_eq_filter (h : s.provider.resolveAll s.allEdges = .ok links)
    (hd : (s.allEdges.map Edge.id).Nodup) (id : String) :
    s.knownFrom links id = links.filter fun l => l.edge.startId = id := by
  have hedges := resolveAll_edges h
  have hown : (links.map fun l => l.edge.id).Nodup := by
    rw [← hedges, List.map_map] at hd
    exact hd
  rw [knownFrom, startingAt, ← hedges, List.filter_map, List.filterMap_map]
  have hself : ∀ l ∈ links.filter (fun l => l.edge.startId = id),
      lastWithId links l.edge.id = some l := fun l hl =>
    lastWithId_own hown (List.mem_of_mem_filter hl)
  exact (List.filterMap_congr hself).trans List.filterMap_some

end Store

section Plans
variable {d : Diagnosis} {p : Provider} {plan : Plan} {x : GenerationError}

theorem Diagnosis.plan_eq_ok :
    d.plan p = .ok plan ↔ p.resolveAll p.edges = .ok plan.links ∧
      p.outgoing plan.links = .ok plan.outgoing ∧
      d.warnings p.nodes plan.links plan.outgoing = .ok plan.warnings := by
  obtain ⟨links, outgoing, warnings⟩ := plan
  rw [Diagnosis.plan]
  cases p.resolveAll p.edges with
  | error e => simp
  | ok ls =>
    cases ho : p.outgoing ls with
    | error e => aesop
    | ok o => cases hw : d.warnings p.nodes ls o <;> aesop

theorem Diagnosis.warnings_eq_error {nodes : List Node} {links : List Link}
    {outgoing : Outgoing} (h : d.warnings nodes links outgoing = .error x) :
    ∃ messages, x = .collisions messages := by
  cases hd : d.collisions with
  | warn => simp [Diagnosis.warnings, hd] at h
  | ignore => simp [Diagnosis.warnings, hd] at h
  | error =>
    simp only [Diagnosis.warnings, hd, reduceCtorEq, ↓reduceIte, true_and] at h
    split at h
    next => exact ⟨_, (Except.error.inj h).symm⟩
    next => simp at h

/-- Diagnostics refuse nothing but collisions, and these under one policy only. -/
theorem Diagnosis.warnings_eq_ok {nodes : List Node} {links : List Link} {outgoing : Outgoing}
    (h : d.collisions = .error → namingCollisions nodes links outgoing = []) :
    ∃ warnings, d.warnings nodes links outgoing = .ok warnings := by
  unfold Diagnosis.warnings
  rw [if_neg]
  · exact ⟨_, rfl⟩
  · rintro ⟨hpolicy, hcollisions⟩
    rw [h hpolicy, ite_self] at hcollisions
    exact hcollisions rfl

theorem Diagnosis.clean_of_warnings {nodes : List Node} {links : List Link}
    {outgoing : Outgoing} {warnings : List String}
    (h : d.warnings nodes links outgoing = .ok warnings) (hpolicy : d.collisions = .error) :
    namingCollisions nodes links outgoing = [] := by
  simp only [Diagnosis.warnings, hpolicy, reduceCtorEq, ↓reduceIte, true_and] at h
  split at h
  next => simp at h
  next hclean => exact not_not.mp hclean

/-- Once edges are resolved, only the diagnostics can refuse a plan. -/
theorem Diagnosis.plan_eq_error {links : List Link} {outgoing : Outgoing}
    (hl : p.resolveAll p.edges = .ok links) (ho : p.outgoing links = .ok outgoing)
    (h : d.plan p = .error x) : d.warnings p.nodes links outgoing = .error x := by
  unfold Diagnosis.plan at h
  simp only [hl, ho] at h
  split at h
  next e he => exact he.trans (congrArg _ (Except.error.inj h))
  next => simp at h

theorem render_eq_error {links : List Link} {outgoing : Outgoing}
    (h : (render p links outgoing).outcome = .error x) : ∃ e, x = .field e := by
  unfold render at h
  split at h
  next u _ => exact ⟨u, (Except.error.inj h).symm⟩
  next =>
    split at h
    next u _ => exact ⟨u, (Except.error.inj h).symm⟩
    next => simp at h

theorem Diagnosis.generate_eq_ok {g : Generated} :
    (d.generate p).outcome = .ok g ↔ ∃ plan document, d.plan p = .ok plan ∧
      (render p plan.links plan.outgoing).outcome = .ok document ∧
      g = ⟨document, p.nodes.length, p.edges.length, plan.warnings⟩ := by
  unfold Diagnosis.generate
  cases d.plan p with
  | error e => simp
  | ok plan =>
    cases hr : (render p plan.links plan.outgoing).outcome <;> simp [hr, Except.map, eq_comm]

/-- Once edges are resolved, generation fails on collisions or on a property. -/
theorem Diagnosis.generate_eq_error {links : List Link} {outgoing : Outgoing}
    (hl : p.resolveAll p.edges = .ok links) (ho : p.outgoing links = .ok outgoing)
    (h : (d.generate p).outcome = .error x) :
    (∃ messages, x = .collisions messages) ∨ ∃ e, x = .field e := by
  unfold Diagnosis.generate at h
  cases hp : d.plan p with
  | error e =>
    rw [hp] at h
    obtain rfl := Except.error.inj h
    obtain ⟨messages, rfl⟩ := warnings_eq_error (plan_eq_error hl ho hp)
    exact .inl ⟨messages, rfl⟩
  | ok plan =>
    rw [hp] at h
    cases hr : (render p plan.links plan.outgoing).outcome with
    | error e =>
      simp only [hr, Except.map, Except.error.injEq] at h
      exact .inr (render_eq_error (h ▸ hr))
    | ok document => simp [hr, Except.map] at h

end Plans
end GraphSchema
