import GraphSchema.Graph.Document
import GraphSchema.Proofs.Graph.Keyed

/-! What an edit that succeeds does to a store, and the inductions over runs and loads. -/
namespace GraphSchema
namespace Store
variable {s t : Store}

@[simp] theorem requireNode_eq_ok {id : String} {n : Node} :
    s.requireNode id = .ok n ↔ s.getNode? id = some n := by
  unfold requireNode
  split <;> simp_all

@[simp] theorem requireEdge_eq_ok {id : String} {e : Edge} :
    s.requireEdge id = .ok e ↔ s.getEdge? id = some e := by
  unfold requireEdge
  split <;> simp_all

theorem addNode_eq_ok {n : Node} :
    s.addNode n = .ok t ↔
      s.nodes.has n.id = false ∧ t = { s with nodes := s.nodes.add n.id n } := by
  unfold addNode
  cases s.nodes.has n.id <;> simp [eq_comm]

theorem registerEdge_eq_ok {e : Edge} :
    s.registerEdge e = .ok t ↔
      s.edges.has e.id = false ∧ t = { s with edges := s.edges.add e.id e } := by
  unfold registerEdge
  cases s.edges.has e.id <;> simp [eq_comm]

theorem has_node_iff {id : String} : s.nodes.has id = true ↔ ∃ n, s.requireNode id = .ok n := by
  simp only [requireNode_eq_ok]
  exact Option.isSome_iff_exists

theorem has_edge_iff {id : String} : s.edges.has id = true ↔ ∃ e, s.requireEdge id = .ok e := by
  simp only [requireEdge_eq_ok]
  exact Option.isSome_iff_exists

theorem addEdge_eq_ok {e : Edge} :
    s.addEdge e = .ok t ↔ s.nodes.has e.startId = true ∧ s.nodes.has e.endId = true ∧
      s.registerEdge e = .ok t := by
  rw [has_node_iff, has_node_iff]
  unfold addEdge
  cases s.requireNode e.startId <;> cases s.requireNode e.endId <;> simp

theorem removeNode_eq_ok {id : String} :
    s.removeNode id = .ok t ↔ s.nodes.has id = true ∧
      t = ⟨s.nodes.remove id, s.edges.filter fun e => !touches id e.2⟩ := by
  rw [has_node_iff]
  unfold removeNode
  cases s.requireNode id <;> simp [eq_comm]

theorem removeEdge_eq_ok {id : String} :
    s.removeEdge id = .ok t ↔
      s.edges.has id = true ∧ t = { s with edges := s.edges.remove id } := by
  rw [has_edge_iff]
  unfold removeEdge
  cases s.requireEdge id <;> simp [eq_comm]

theorem changeNode_eq_ok {id : String} {change : Node → Checked Node} :
    s.changeNode id change = .ok t ↔ ∃ n m, s.getNode? id = some n ∧ change n = .ok m ∧
      t = { s with nodes := s.nodes.replace id m } := by
  unfold changeNode
  cases h : s.requireNode id with
  | error x =>
    simp only [← requireNode_eq_ok, h, reduceCtorEq, false_and, exists_false]
  | ok n =>
    simp only [← requireNode_eq_ok, h, Except.ok.injEq, exists_and_left, exists_eq_left']
    cases change n <;> simp [eq_comm]

theorem changeEdge_eq_ok {id : String} {change : Edge → Checked Edge} :
    s.changeEdge id change = .ok t ↔ ∃ e f, s.getEdge? id = some e ∧ change e = .ok f ∧
      t = { s with edges := s.edges.replace id f } := by
  unfold changeEdge
  cases h : s.requireEdge id with
  | error x =>
    simp only [← requireEdge_eq_ok, h, reduceCtorEq, false_and, exists_false]
  | ok e =>
    simp only [← requireEdge_eq_ok, h, Except.ok.injEq, exists_and_left, exists_eq_left']
    cases change e <;> simp [eq_comm]

@[simp] theorem named_eq_ok {α : Type} {id : Value} {missing : String → StoreError}
    {f : String → Except StoreError α} {a : α} :
    named id missing f = .ok a ↔ ∃ i, id = .text i ∧ f i = .ok a := by
  unfold named
  split <;> simp_all

end Store

theorem Node.assign_label_eq_ok {n m : Node} {v : Value} :
    n.assign "label" v = .ok m ↔ ∃ l, Check.label .node v = .ok l ∧ m = { n with label := l } := by
  simp only [Node.assign, Checked.within_eq_ok, map_eq_ok]
  exact exists_congr fun l => and_congr_right fun _ => eq_comm

theorem Edge.assign_label_eq_ok {e f : Edge} {v : Value} :
    e.assign "label" v = .ok f ↔ ∃ l, Check.label .edge v = .ok l ∧ f = { e with label := l } := by
  simp only [Edge.assign, Checked.within_eq_ok, map_eq_ok]
  exact exists_congr fun l => and_congr_right fun _ => eq_comm

/-- All that a successful edit requires of a store and does to it. -/
inductive Effect (s : Store) : Edit → Store → Prop where
  | addNode {n : Node} (fresh : s.nodes.has n.id = false) :
    Effect s (.addNode n) { s with nodes := s.nodes.add n.id n }
  | addEdge {e : Edge} (start : s.nodes.has e.startId = true)
      (finish : s.nodes.has e.endId = true) (fresh : s.edges.has e.id = false) :
    Effect s (.addEdge e) { s with edges := s.edges.add e.id e }
  | removeNode {id : String} (present : s.nodes.has id = true) :
    Effect s (.removeNode (.text id))
      ⟨s.nodes.remove id, s.edges.filter fun e => !Store.touches id e.2⟩
  | removeEdge {id : String} (present : s.edges.has id = true) :
    Effect s (.removeEdge (.text id)) { s with edges := s.edges.remove id }
  | labelNode {id : String} {n : Node} {v : Value} {l : String}
      (found : s.getNode? id = some n) (checked : Check.label .node v = .ok l) :
    Effect s (.setNodeLabel (.text id) v)
      { s with nodes := s.nodes.replace id { n with label := l } }
  | labelEdge {id : String} {e : Edge} {v : Value} {l : String}
      (found : s.getEdge? id = some e) (checked : Check.label .edge v = .ok l) :
    Effect s (.setEdgeLabel (.text id) v)
      { s with edges := s.edges.replace id { e with label := l } }
  | fillNode {id : String} {n : Node} {ds : Drafts} {ps : List Property}
      (found : s.getNode? id = some n) (checked : ds.check = .ok ps) :
    Effect s (.setNodeProperties (.text id) ds)
      { s with nodes := s.nodes.replace id { n with properties := ps } }
  | fillEdge {id : String} {e : Edge} {ds : Drafts} {ps : List Property}
      (found : s.getEdge? id = some e) (checked : ds.check = .ok ps) :
    Effect s (.setEdgeProperties (.text id) ds)
      { s with edges := s.edges.replace id { e with properties := ps } }
  | clear : Effect s .clear Store.empty

section Perform
open Store
variable {s t : Store} {e : Edit}

theorem Effect.of_perform (h : s.perform e = .ok t) : Effect s e t := by
  cases e with
  | addNode n =>
    obtain ⟨fresh, rfl⟩ := addNode_eq_ok.mp h
    exact .addNode fresh
  | addEdge e =>
    obtain ⟨start, finish, h⟩ := addEdge_eq_ok.mp h
    obtain ⟨fresh, rfl⟩ := registerEdge_eq_ok.mp h
    exact .addEdge start finish fresh
  | removeNode id =>
    obtain ⟨i, rfl, h⟩ := named_eq_ok.mp h
    obtain ⟨present, rfl⟩ := removeNode_eq_ok.mp h
    exact .removeNode present
  | removeEdge id =>
    obtain ⟨i, rfl, h⟩ := named_eq_ok.mp h
    obtain ⟨present, rfl⟩ := removeEdge_eq_ok.mp h
    exact .removeEdge present
  | setNodeLabel id v =>
    obtain ⟨i, rfl, h⟩ := named_eq_ok.mp h
    obtain ⟨n, m, found, changed, rfl⟩ := changeNode_eq_ok.mp h
    obtain ⟨l, checked, rfl⟩ := Node.assign_label_eq_ok.mp changed
    exact .labelNode found checked
  | setEdgeLabel id v =>
    obtain ⟨i, rfl, h⟩ := named_eq_ok.mp h
    obtain ⟨n, m, found, changed, rfl⟩ := changeEdge_eq_ok.mp h
    obtain ⟨l, checked, rfl⟩ := Edge.assign_label_eq_ok.mp changed
    exact .labelEdge found checked
  | setNodeProperties id ds =>
    obtain ⟨i, rfl, h⟩ := named_eq_ok.mp h
    obtain ⟨n, m, found, changed, rfl⟩ := changeNode_eq_ok.mp h
    obtain ⟨ps, checked, rfl⟩ := map_eq_ok.mp (Checked.within_eq_ok.mp changed)
    exact .fillNode found checked
  | setEdgeProperties id ds =>
    obtain ⟨i, rfl, h⟩ := named_eq_ok.mp h
    obtain ⟨n, m, found, changed, rfl⟩ := changeEdge_eq_ok.mp h
    obtain ⟨ps, checked, rfl⟩ := map_eq_ok.mp (Checked.within_eq_ok.mp changed)
    exact .fillEdge found checked
  | clear =>
    obtain rfl := Except.ok.inj h
    exact .clear

theorem Effect.perform (h : Effect s e t) : s.perform e = .ok t := by
  cases h with
  | addNode fresh => exact addNode_eq_ok.mpr ⟨fresh, rfl⟩
  | addEdge start finish fresh =>
    exact addEdge_eq_ok.mpr ⟨start, finish, registerEdge_eq_ok.mpr ⟨fresh, rfl⟩⟩
  | removeNode present => exact removeNode_eq_ok.mpr ⟨present, rfl⟩
  | removeEdge present => exact removeEdge_eq_ok.mpr ⟨present, rfl⟩
  | labelNode found checked =>
    exact changeNode_eq_ok.mpr ⟨_, _, found, Node.assign_label_eq_ok.mpr ⟨_, checked, rfl⟩, rfl⟩
  | labelEdge found checked =>
    exact changeEdge_eq_ok.mpr ⟨_, _, found, Edge.assign_label_eq_ok.mpr ⟨_, checked, rfl⟩, rfl⟩
  | fillNode found checked =>
    exact changeNode_eq_ok.mpr
      ⟨_, _, found, Checked.within_eq_ok.mpr (map_eq_ok.mpr ⟨_, checked, rfl⟩), rfl⟩
  | fillEdge found checked =>
    exact changeEdge_eq_ok.mpr
      ⟨_, _, found, Checked.within_eq_ok.mpr (map_eq_ok.mpr ⟨_, checked, rfl⟩), rfl⟩
  | clear => rfl

theorem perform_eq_ok : s.perform e = .ok t ↔ Effect s e t :=
  ⟨.of_perform, fun h => h.perform⟩

end Perform

namespace Store
section Runs
variable {P : Store → Prop} {Q : Edit → Prop}
  (step : ∀ {s e t}, Q e → Effect s e t → P s → P t)
include step

theorem after_keeps {s : Store} {e : Edit} (he : Q e) (h : P s) : P (s.after e) := by
  unfold after
  split
  next t ht => exact step he (perform_eq_ok.mp ht) h
  next => exact h

/-- What every successful edit keeps holds after any run, refused edits included. -/
theorem afterAll_keeps {s : Store} {es : List Edit} (hes : ∀ e ∈ es, Q e) (h : P s) :
    P (s.afterAll es) := by
  induction es generalizing s with
  | nil => exact h
  | cons e es ih =>
    obtain ⟨he, hes⟩ := List.forall_mem_cons.mp hes
    exact ih hes (after_keeps step he h)

theorem performAll_keeps {s t : Store} {es : List Edit} (hes : ∀ e ∈ es, Q e) (h : P s)
    (ht : (s.performAll es).2 = .ok t) : P t := by
  induction es generalizing s with
  | nil =>
    obtain rfl := Except.ok.inj ht
    exact h
  | cons e es ih =>
    obtain ⟨he, hes⟩ := List.forall_mem_cons.mp hes
    rw [performAll] at ht
    split at ht
    next => simp at ht
    next u hu => exact ih hes (step he (perform_eq_ok.mp hu) h) ht

end Runs
end Store

namespace Load

theorem registerEdge_of_insertEdge {strict : Bool} {s t : Store} {e : Edge}
    (h : insertEdge strict s e = .ok t) : s.registerEdge e = .ok t := by
  cases strict with
  | false => exact h
  | true => exact (Store.addEdge_eq_ok.mp h).2.2

theorem outcome_eq_ok {l : Load} {s : Store} :
    l.outcome = .ok s ↔ l.failure = none ∧ l.store = s := by
  unfold outcome
  split <;> simp_all

/-- What stands where a list should has its items or texts as parts. -/
theorem parts_cases {v : Value} {vs : List Value} (h : parts v = .ok vs) :
    v = .list vs ∨ ∀ w ∈ vs, ∃ s, w = .text s := by
  unfold parts at h
  split at h
  next =>
    obtain rfl := Except.ok.inj h
    exact .inr fun _ hw => absurd hw List.not_mem_nil
  next =>
    split at h
    next =>
      obtain rfl := Except.ok.inj h
      exact .inl rfl
    next =>
      obtain rfl := Except.ok.inj h
      exact .inr (List.forall_mem_map.mpr fun _ _ => ⟨_, rfl⟩)
    next =>
      obtain rfl := Except.ok.inj h
      exact .inr (List.forall_mem_map.mpr fun _ _ => ⟨_, rfl⟩)
    next => simp at h
    next => simp at h
    next => simp at h
    next =>
      obtain rfl := Except.ok.inj h
      exact .inr fun _ hw => absurd hw List.not_mem_nil

/-- A value that a load of a document takes for a node or an edge. -/
inductive Part : Value → Value → Prop
  | mk {fields : List (String × Value)} {name : String} {vs : List Value} {w : Value}
      (parts : parts ((fields.lookup name).getD .null) = .ok vs) (mem : w ∈ vs) :
    Part (.object fields) w

section Runs
variable {P : Store → Prop} {Q : Value → Prop} {document : Value} {strict : Bool}

theorem takeNode_keeps
    (node : ∀ {used v n s t}, Q v → Node.check used v = .ok n → Store.addNode s n = .ok t →
      P s → P t) (l : Load) (v : Value) (hv : Q v) (h : P l.store) : P (l.takeNode v).store := by
  simp only [takeNode]
  split
  next => exact h
  next =>
    split
    next => exact h
    next n hn =>
      split
      next => exact h
      next s hs => exact node hv hn hs h

theorem takeEdge_keeps
    (edge : ∀ {used v e s t}, Q v → Edge.check used v = .ok e → insertEdge strict s e = .ok t →
      P s → P t) (l : Load) (v : Value) (hv : Q v) (h : P l.store) :
    P (l.takeEdge strict v).store := by
  simp only [takeEdge]
  split
  next => exact h
  next =>
    split
    next => exact h
    next e he =>
      split
      next => exact h
      next s hs => exact edge hv he hs h

theorem takeAll_keeps {take : Load → Value → Load}
    (each : ∀ l v, Q v → P l.store → P (take l v).store) {v : Value} {l : Load}
    (hv : ∀ {vs}, parts v = .ok vs → ∀ w ∈ vs, Q w) (h : P l.store) :
    P (takeAll take v l).store := by
  have hfold {vs : List Value} (hvs : ∀ w ∈ vs, Q w) {l : Load} (h : P l.store) :
      P (vs.foldl take l).store := by
    induction vs generalizing l with
    | nil => exact h
    | cons v vs ih =>
      obtain ⟨hv, hvs⟩ := List.forall_mem_cons.mp hvs
      exact ih hvs (each l v hv h)
  unfold takeAll
  split
  next => exact h
  next =>
    split
    next => exact h
    next hparts => exact hfold (hv hparts) h

/-- What holds of the empty store and is kept by every entity that a load takes holds of the store
that it reaches. -/
theorem document_keeps
    (node : ∀ {used v n s t}, Part document v → Node.check used v = .ok n →
      Store.addNode s n = .ok t → P s → P t)
    (edge : ∀ {used v e s t}, Part document v → Edge.check used v = .ok e →
      insertEdge strict s e = .ok t → P s → P t)
    (start : P {}) {used : Nat} {s : Store}
    (h : (Load.document strict used document).outcome = .ok s) : P s := by
  obtain ⟨-, rfl⟩ := outcome_eq_ok.mp h
  unfold Load.document
  split
  next fields =>
    have hnodes := takeAll_keeps (takeNode_keeps node) (v := (fields.lookup "nodes").getD .null)
      (l := { used }) (fun hparts _ hw => .mk hparts hw) start
    have hedges := takeAll_keeps (takeEdge_keeps edge) (v := (fields.lookup "edges").getD .null)
      (fun hparts _ hw => .mk hparts hw) hnodes
    dsimp only
    split
    next => exact hedges
    next => exact hedges
  next => exact start

end Runs
end Load
end GraphSchema
