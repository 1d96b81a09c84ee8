import GraphSchema.Proofs.Graph.Integrity
import GraphSchema.Proofs.Schema.Outcome

/-! Strict and lenient loads of one document. A strict load gives the store that a lenient one gives
if every edge joins two nodes of it; else it stops at the first edge that does not, and names the
node that generation from the lenient store misses. -/
namespace GraphSchema

namespace Store
variable {s t : Store} {e : Edge}

theorem gap?_eq_none : s.gap? e = none ↔ e.startId ∈ s.nodes.keys ∧ e.endId ∈ s.nodes.keys := by
  rw [← Registry.has_iff, ← Registry.has_iff, gap?]
  split
  next hs => split <;> simp_all
  next hs => simp [hs]

theorem linked_iff : s.Linked ↔ s.firstGap? = none := by
  rw [firstGap?_eq_none]
  exact forall₂_congr fun _ _ => gap?_eq_none.symm

/-- What a document that is generated says of its store. -/
theorem linked_of_generate {d : Diagnosis} {g : Generated}
    (h : (d.generate s.provider).outcome = .ok g) :
    s.Linked ∧ ∀ p ∈ s.properties, p.Declarable := by
  rw [generate_eq] at h
  split at h
  next => exact absurd h.symm (by simp)
  next hgap =>
    split at h
    next => exact absurd h (by simp)
    next =>
      split at h
      next => exact absurd h (by simp)
      next he => exact ⟨linked_iff.mpr hgap, firstFault?_eq_none.mp he⟩

theorem exists_generate_of_linked {d : Diagnosis} (hl : s.Linked)
    (hdeclarable : ∀ p ∈ s.properties, p.Declarable)
    (hpolicy : d.collisions ≠ .error) : ∃ g, (d.generate s.provider).outcome = .ok g :=
  ⟨_, (Ends.generated (firstGap?_eq_none.mp (linked_iff.mp hl)) (fun h => absurd h hpolicy)
    hdeclarable).eq_generate⟩

/-- Adding an edge registers it, unless one of its ends is missing. -/
theorem addEdge_eq (s : Store) (e : Edge) :
    s.addEdge e = match s.gap? e with
      | none => s.registerEdge e
      | some g => .error (.noNode g.nodeId) := by
  have hget (id : String) : s.getNode? id = s.nodes.get? id := rfl
  rw [addEdge, requireNode, requireNode, gap?, Registry.has, Registry.has, hget, hget]
  cases s.nodes.get? e.startId with
  | none => simp
  | some start => cases s.nodes.get? e.endId <;> simp

theorem allEdges_of_addNode {n : Node} (h : s.addNode n = .ok t) : t.allEdges = s.allEdges := by
  obtain ⟨-, rfl⟩ := addNode_eq_ok.mp h
  rfl

theorem gap?_congr (h : t.nodes = s.nodes) : t.gap? = s.gap? := by
  funext e
  rw [gap?, gap?, h]

end Store

namespace Load
variable {strict : Bool} {l : Load} {v : Value} {vs : List Value} {s : Store} {e : Edge}

section Steps

theorem takeEdge_stopped (h : l.failure.isSome) : l.takeEdge strict v = l := if_pos h

theorem takeEdges_stopped (h : l.failure.isSome) : vs.foldl (takeEdge strict) l = l := by
  induction vs with
  | nil => rfl
  | cons v vs ih => rw [List.foldl_cons, takeEdge_stopped h, ih]

/-- A load that went well had not stopped before. -/
theorem failure_of_takeEdges (h : (vs.foldl (takeEdge strict) l).failure = none) :
    l.failure = none := by
  by_contra hl
  rw [takeEdges_stopped (Option.isSome_iff_ne_none.mpr hl)] at h
  exact hl h

/-- The load after an edge that was taken. -/
def afterEdge (l : Load) (v : Value) (e : Edge) (s : Store) : Load :=
  accept { l with used := idsAfter l.used v } s (.edgeAdded e.id e.label)

theorem takeEdge_of_insertEdge (hl : l.failure = none) (hcheck : Edge.check l.used v = .ok e)
    (hinsert : insertEdge strict l.store e = .ok s) :
    l.takeEdge strict v = l.afterEdge v e s := by
  simp [takeEdge, hl, hcheck, hinsert, afterEdge]

theorem failure_of_insertEdge {x : StoreError} (hl : l.failure = none)
    (hcheck : Edge.check l.used v = .ok e) (hinsert : insertEdge strict l.store e = .error x) :
    (l.takeEdge strict v).failure = some (.store x) := by
  simp [takeEdge, hl, hcheck, hinsert, fail]

/-- An edge that is taken passed its check and was inserted. -/
theorem exists_of_takeEdge (h : (l.takeEdge strict v).failure = none) :
    l.failure = none ∧ ∃ e s, Edge.check l.used v = .ok e ∧
      insertEdge strict l.store e = .ok s ∧ l.takeEdge strict v = l.afterEdge v e s := by
  have hl : l.failure = none :=
    failure_of_takeEdges (show ([v].foldl (takeEdge strict) l).failure = none from h)
  refine ⟨hl, ?_⟩
  cases hcheck : Edge.check l.used v with
  | error fs => simp [takeEdge, hl, hcheck, fail] at h
  | ok e =>
    cases hinsert : insertEdge strict l.store e with
    | error x => simp [failure_of_insertEdge hl hcheck hinsert] at h
    | ok s => exact ⟨e, s, rfl, hinsert, takeEdge_of_insertEdge hl hcheck hinsert⟩

/-- An edge that a lenient load takes is added. A strict load does the same, unless an end of it is
missing. -/
theorem takeEdge_strict (h : (l.takeEdge false v).failure = none) :
    ∃ e : Edge, (l.takeEdge false v).store = { l.store with edges := l.store.edges.add e.id e } ∧
      match l.store.gap? e with
      | none => l.takeEdge true v = l.takeEdge false v
      | some g => (l.takeEdge true v).failure = some (.store (.noNode g.nodeId)) := by
  obtain ⟨hl, e, s, hcheck, hinsert, htake⟩ := exists_of_takeEdge h
  obtain ⟨-, rfl⟩ := Store.registerEdge_eq_ok.mp hinsert
  refine ⟨e, congrArg Load.store htake, ?_⟩
  have hadd : insertEdge true l.store e = _ := l.store.addEdge_eq e
  cases hgap : l.store.gap? e with
  | none =>
    rw [hgap] at hadd
    rw [htake]
    exact takeEdge_of_insertEdge hl hcheck (hadd.trans hinsert)
  | some g =>
    rw [hgap] at hadd
    exact failure_of_insertEdge hl hcheck hadd

end Steps

/-- Where a strict load takes all values, a lenient one does the same. -/
theorem lenient_of_strict (h : (vs.foldl (takeEdge true) l).failure = none) :
    vs.foldl (takeEdge false) l = vs.foldl (takeEdge true) l := by
  induction vs generalizing l with
  | nil => rfl
  | cons v vs ih =>
    rw [List.foldl_cons] at h ⊢
    obtain ⟨hl, e, s, hcheck, hinsert, htake⟩ := exists_of_takeEdge (failure_of_takeEdges h)
    have hregister : insertEdge false l.store e = .ok s := registerEdge_of_insertEdge hinsert
    have hsame : l.takeEdge false v = l.takeEdge true v :=
      (takeEdge_of_insertEdge hl hcheck hregister).trans htake.symm
    rw [hsame]
    exact ih h

/-- Where a lenient load takes all values, it only adds edges. A strict one does the same up to the
first of these with a missing end, and stops there. -/
theorem strict_of_lenient (h : (vs.foldl (takeEdge false) l).failure = none) :
    ∃ added : List Edge,
      (vs.foldl (takeEdge false) l).store.nodes = l.store.nodes ∧
      (vs.foldl (takeEdge false) l).store.allEdges = l.store.allEdges ++ added ∧
      match added.findSome? l.store.gap? with
      | none => vs.foldl (takeEdge true) l = vs.foldl (takeEdge false) l
      | some g =>
        (vs.foldl (takeEdge true) l).failure = some (.store (.noNode g.nodeId)) := by
  induction vs generalizing l with
  | nil => exact ⟨[], rfl, (List.append_nil _).symm, rfl⟩
  | cons v vs ih =>
    simp only [List.foldl_cons] at h ⊢
    obtain ⟨e, hstore, htake⟩ := takeEdge_strict (failure_of_takeEdges h)
    obtain ⟨added, hnodes, hedges, hstrict⟩ := ih h
    have hgaps : (l.takeEdge false v).store.gap? = l.store.gap? := Store.gap?_congr (by rw [hstore])
    rw [hgaps] at hstrict
    refine ⟨e :: added, ?_, ?_, ?_⟩
    · rw [hnodes, hstore]
    · rw [hedges, hstore]
      simp [Store.allEdges, Registry.entities, Registry.add]
    · rw [List.findSome?_cons]
      cases hgap : l.store.gap? e with
      | none =>
        rw [hgap] at htake
        rw [htake]
        exact hstrict
      | some g =>
        rw [hgap] at htake
        have hstopped : (l.takeEdge true v).failure.isSome := by simp [htake]
        simp only [takeEdges_stopped hstopped]
        exact htake

theorem takeAll_parts {take : Load → Value → Load} (hl : l.failure = none)
    (hparts : parts v = .ok vs) : takeAll take v l = vs.foldl take l := by
  simp [takeAll, hl, hparts]

theorem document_outcome (strict : Bool) (used : Nat) (fields : List (String × Value)) :
    (document strict used (.object fields)).outcome =
      (takeAll (takeEdge strict) ((fields.lookup "edges").getD .null)
        (takeAll takeNode ((fields.lookup "nodes").getD .null) { used })).outcome := by
  unfold document
  dsimp only
  split
  next => rfl
  next => rfl

/-- Nodes are taken before edges, wherever they stand: a load of either kind fails before the first
edge, or it takes the same edges from where the nodes have led. -/
theorem document_cases (used : Nat) (v : Value) :
    (∃ x, ∀ strict, (document strict used v).outcome = .error x) ∨
      ∃ (l : Load) (vs : List Value), l.store.allEdges = [] ∧
        ∀ strict, (document strict used v).outcome = (vs.foldl (takeEdge strict) l).outcome := by
  by_cases hv : ∃ fields, v = .object fields
  · obtain ⟨fields, rfl⟩ := hv
    have hempty : (takeAll takeNode ((fields.lookup "nodes").getD .null) { used }).store.allEdges =
        [] :=
      takeAll_keeps (P := fun s => s.allEdges = []) (Q := fun _ => True)
        (takeNode_keeps fun _ _ hadd hs => (Store.allEdges_of_addNode hadd).trans hs)
        (fun _ _ _ => trivial) rfl
    simp only [document_outcome]
    generalize takeAll takeNode ((fields.lookup "nodes").getD .null) { used } = l at hempty ⊢
    cases hl : l.failure with
    | some x => exact .inl ⟨x, fun strict => by simp [takeAll, outcome, hl]⟩
    | none =>
      cases hparts : parts ((fields.lookup "edges").getD .null) with
      | error x => exact .inl ⟨x, fun strict => by simp [takeAll, outcome, hl, hparts, fail]⟩
      | ok vs => exact .inr ⟨l, vs, hempty, fun strict => by rw [takeAll_parts hl hparts]⟩
  · refine .inl ⟨.notObject, fun strict => ?_⟩
    unfold document
    split
    next fields => exact absurd ⟨fields, rfl⟩ hv
    next => rfl

/-- What a strict load gives is decided by the store that a lenient load gives. -/
theorem strict_outcome {used : Nat} (h : (document false used v).outcome = .ok s) :
    (document true used v).outcome =
      match s.firstGap? with
      | none => .ok s
      | some g => .error (.store (.noNode g.nodeId)) := by
  rcases document_cases used v with ⟨x, hx⟩ | ⟨l, vs, hempty, hrun⟩
  · simp [hx] at h
  · rw [hrun] at h ⊢
    obtain ⟨hfailure, rfl⟩ := outcome_eq_ok.mp h
    obtain ⟨added, hnodes, hedges, hstrict⟩ := strict_of_lenient hfailure
    rw [hempty, List.nil_append] at hedges
    rw [Store.firstGap?, hedges, Store.gap?_congr hnodes]
    cases hgap : added.findSome? l.store.gap? with
    | none =>
      rw [hgap] at hstrict
      rw [hstrict, h]
    | some g =>
      rw [hgap] at hstrict
      simp [outcome, hstrict]

theorem lenient_outcome {used : Nat} (h : (document true used v).outcome = .ok s) :
    (document false used v).outcome = .ok s := by
  rcases document_cases used v with ⟨x, hx⟩ | ⟨l, vs, -, hrun⟩
  · simp [hx] at h
  · rw [hrun] at h ⊢
    rw [lenient_of_strict (outcome_eq_ok.mp h).1, h]

/-- A strict load of a document gives a store if and only if the lenient load gives the same store
and every edge of it joins two of its nodes. If only the lenient load gives a store, the strict one
fails on the node that generation misses. -/
theorem document_strict (used : Nat) (v : Value) :
    (∀ s, (document true used v).outcome = .ok s ↔
      (document false used v).outcome = .ok s ∧ s.Linked) ∧
    ∀ s x, (document false used v).outcome = .ok s → (document true used v).outcome = .error x →
      ∃ edgeId nodeId role,
        (∀ d : Diagnosis, (d.generate s.provider).outcome =
          .error (.missingEndpoint edgeId nodeId role)) ∧
        x = .store (.noNode nodeId) ∧ x.message = "Node '" ++ nodeId ++ "' does not exist" := by
  constructor
  · intro s
    constructor
    · intro h
      exact ⟨lenient_outcome h, (Store.Origin.loaded h).sound.linked⟩
    · rintro ⟨h, hlinked⟩
      rw [strict_outcome h, Store.linked_iff.mp hlinked]
  · intro s x h hx
    rw [strict_outcome h] at hx
    cases hgap : s.firstGap? with
    | none => simp [hgap] at hx
    | some g =>
      simp only [hgap, Except.error.injEq] at hx
      subst hx
      refine ⟨g.edgeId, g.nodeId, g.role, fun d => ?_, rfl, rfl⟩
      rw [Store.generate_eq, hgap]
      rfl

/-- A person with two edges, one of them to a city that is not there; the edges stand first. -/
def stray : Value := .object [
  ("edges", .list [
    .object [("id", .text "knows"), ("label", .text "knows"), ("startNodeID", .text "p"),
      ("endNodeID", .text "p")],
    .object [("id", .text "lives"), ("label", .text "livesIn"), ("startNodeID", .text "p"),
      ("endNodeID", .text "c")]]),
  ("nodes", .list [.object [("id", .text "p"), ("label", .text "person")]])]

theorem document_strict_stray :
    ∃ s x, (document false 0 stray).outcome = .ok s ∧ (document true 0 stray).outcome = .error x ∧
      ∃ edgeId nodeId role,
        (∀ d : Diagnosis, (d.generate s.provider).outcome =
          .error (.missingEndpoint edgeId nodeId role)) ∧
        x = .store (.noNode nodeId) ∧ x.message = "Node '" ++ nodeId ++ "' does not exist" := by
  have hlenient : (document false 0 stray).outcome = .ok _ := rfl
  have hstrict : (document true 0 stray).outcome = .error _ := rfl
  exact ⟨_, _, hlenient, hstrict, (document_strict 0 stray).2 _ _ hlenient hstrict⟩

end Load
end GraphSchema
