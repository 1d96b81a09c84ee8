import GraphSchema.Proofs.Graph.Integrity
import GraphSchema.Proofs.Graph.Refusals

/-! Edits are all or nothing. Each is written out as the steps by which it reads and writes the
registries, and what a step has written stays if a later one stops. No edit is stopped after its
first write: it does what the store performs, or leaves the store as it was. -/
namespace GraphSchema

/-- What stops an edit: a refusal, or the deletion of a key that is not there. -/
inductive Halt where
  | refused (e : StoreError)
  | noKey (key : String)

/-- Steps that read and write a store. What has been written stays when they are stopped. -/
abbrev Procedure (α : Type) := ExceptT Halt (StateM Store) α

namespace Procedure

def accept {α : Type} : Except StoreError α → Procedure α
  | .ok a => pure a
  | .error e => throw (.refused e)

/-- The node with an id, which has to be there, and its key. -/
def demandNode (id : Value) : Procedure (String × Node) := do
  let s ← get
  accept (Store.named id .noNode fun i => (s.requireNode i).map (i, ·))

def demandEdge (id : Value) : Procedure (String × Edge) := do
  let s ← get
  accept (Store.named id .noEdge fun i => (s.requireEdge i).map (i, ·))

def deleteNode (key : String) : Procedure Unit := do
  let s ← get
  if s.nodes.has key then set { s with nodes := s.nodes.remove key }
  else throw (.noKey key)

def deleteEdge (key : String) : Procedure Unit := do
  let s ← get
  if s.edges.has key then set { s with edges := s.edges.remove key }
  else throw (.noKey key)

/-- Checks a changed node, and only then puts it in its place. -/
def changeNode (id : Value) (change : Node → Checked Node) : Procedure Unit := do
  let (key, n) ← demandNode id
  let n ← accept ((change n).mapError (.ofFaults .node))
  modify fun s => { s with nodes := s.nodes.replace key n }

def changeEdge (id : Value) (change : Edge → Checked Edge) : Procedure Unit := do
  let (key, e) ← demandEdge id
  let e ← accept ((change e).mapError (.ofFaults .edge))
  modify fun s => { s with edges := s.edges.replace key e }

/-- The steps of an edit. A node that is removed loses its edges one by one and then goes itself. -/
def ofEdit : Edit → Procedure Unit
  | .addNode n => do
    let s ← get
    if s.nodes.has n.id then throw (.refused (.nodeExists n.id))
    set { s with nodes := s.nodes.add n.id n }
  | .addEdge e => do
    let _ ← demandNode (.text e.startId)
    let _ ← demandNode (.text e.endId)
    let s ← get
    if s.edges.has e.id then throw (.refused (.edgeExists e.id))
    set { s with edges := s.edges.add e.id e }
  | .removeNode id => do
    let (key, _) ← demandNode id
    let s ← get
    let attached := Registry.keys (s.edges.filter fun e => Store.touches key e.2)
    attached.forM deleteEdge
    deleteNode key
  | .removeEdge id => do
    let (key, _) ← demandEdge id
    deleteEdge key
  | .setNodeLabel id label => changeNode id (·.assign "label" label)
  | .setEdgeLabel id label => changeEdge id (·.assign "label" label)
  | .setNodeProperties id ds => changeNode id fun n =>
    Checked.within (.field "properties") (ds.check.map fun ps => { n with properties := ps })
  | .setEdgeProperties id ds => changeEdge id fun e =>
    Checked.within (.field "properties") (ds.check.map fun ps => { e with properties := ps })
  | .clear => do
    modify fun s => { s with nodes := [] }
    modify fun s => { s with edges := [] }

end Procedure

namespace Store
variable {α β : Type} {s t : Store}

/-- How steps end, and the store that they leave. -/
def undergo (s : Store) (a : Procedure α) : Except Halt α × Store := StateT.run (ExceptT.run a) s

theorem undergo_bind_get (f : Store → Procedure α) : s.undergo (get >>= f) = s.undergo (f s) := rfl

theorem undergo_bind_of_ok {a : Procedure α} {b : α} (h : s.undergo a = (.ok b, t))
    (f : α → Procedure β) : s.undergo (a >>= f) = t.undergo (f b) := by
  unfold undergo at h
  rw [undergo, ExceptT.run_bind, StateT.run_bind, h]
  rfl

/-- How an edit ends that the store performs, and the store that it leaves. -/
def ending (s : Store) : Except StoreError Store → Except Halt Unit × Store
  | .ok t => (.ok (), t)
  | .error e => (.error (.refused e), s)

section Steps
open Procedure
variable {key : String}

theorem undergo_bind_demandNode (f : String × Node → Procedure β) :
    s.undergo (demandNode (.text key) >>= f) = match s.requireNode key with
      | .ok n => s.undergo (f (key, n))
      | .error e => (.error (.refused e), s) := by
  rw [demandNode, bind_assoc, undergo_bind_get, named]
  cases s.requireNode key <;> rfl

theorem undergo_bind_demandEdge (f : String × Edge → Procedure β) :
    s.undergo (demandEdge (.text key) >>= f) = match s.requireEdge key with
      | .ok e => s.undergo (f (key, e))
      | .error e => (.error (.refused e), s) := by
  rw [demandEdge, bind_assoc, undergo_bind_get, named]
  cases s.requireEdge key <;> rfl

theorem undergo_deleteNode (h : s.nodes.has key = true) :
    s.undergo (deleteNode key) = (.ok (), { s with nodes := s.nodes.remove key }) := by
  rw [deleteNode, undergo_bind_get, if_pos h]
  rfl

theorem undergo_deleteEdge (h : s.edges.has key = true) :
    s.undergo (deleteEdge key) = (.ok (), { s with edges := s.edges.remove key }) := by
  rw [deleteEdge, undergo_bind_get, if_pos h]
  rfl

/-- Edges that are there, each named once, are deleted one by one without a stop. -/
theorem undergo_deleteEdges {keys : List String} (hin : ∀ k ∈ keys, k ∈ s.edges.keys)
    (hkeys : keys.Nodup) :
    s.undergo (keys.forM deleteEdge) =
      (.ok (), { s with edges := s.edges.filter fun e => e.1 ∉ keys }) := by
  induction keys generalizing s with
  | nil =>
    have hall : s.edges.filter (fun e => e.1 ∉ []) = s.edges := by simp
    rw [hall]
    rfl
  | cons k keys ih =>
    obtain ⟨hk, hkeys⟩ := List.nodup_cons.mp hkeys
    obtain ⟨hfirst, hin⟩ := List.forall_mem_cons.mp hin
    -- a key is named once, so the keys still to come are among those that are left
    have hleft : ∀ l ∈ keys, l ∈ (s.edges.remove k).keys := by
      intro l hl
      have hne : l ≠ k := fun h => hk (h ▸ hl)
      rw [Registry.keys_remove]
      exact List.mem_filter.mpr ⟨hin l hl, decide_eq_true hne⟩
    have hfilter : (s.edges.remove k).filter (fun e => e.1 ∉ keys) =
        s.edges.filter fun e => e.1 ∉ k :: keys := by
      rw [Registry.remove, List.filter_filter]
      congr 1
      funext e
      simp [Bool.and_comm]
    show s.undergo (deleteEdge k >>= fun _ => keys.forM deleteEdge) = _
    rw [undergo_bind_of_ok (undergo_deleteEdge (Registry.has_iff.mpr hfirst)), ih hleft hkeys,
      hfilter]

/-- The edges at a node, looked up first and then deleted, are all that go. -/
theorem undergo_deleteAttached (hkeys : s.edges.keys.Nodup) (key : String) :
    s.undergo ((Registry.keys (s.edges.filter fun e => touches key e.2)).forM deleteEdge) =
      (.ok (), { s with edges := s.edges.filter fun e => !touches key e.2 }) := by
  have hsub : (s.edges.filter fun e => touches key e.2).Sublist s.edges := List.filter_sublist
  have hin : ∀ k ∈ Registry.keys (s.edges.filter fun e => touches key e.2), k ∈ s.edges.keys :=
    fun k hk => (hsub.map _).subset hk
  have hkept (e) (he : e ∈ s.edges) :
      decide (e.1 ∉ Registry.keys (s.edges.filter fun e => touches key e.2)) =
        !touches key e.2 := by
    simp [Registry.mem_keys_filter hkeys he]
  rw [undergo_deleteEdges hin (hkeys.sublist (hsub.map _)), List.filter_congr hkept]

theorem undergo_changeNode (id : Value) (change : Node → Checked Node) :
    s.undergo (Procedure.changeNode id change) =
      s.ending (named id .noNode fun i => s.changeNode i change) := by
  cases id with
  | text i =>
    rw [Procedure.changeNode, undergo_bind_demandNode, named, Store.changeNode]
    cases s.requireNode i with
    | error e => rfl
    | ok n =>
      dsimp only
      cases change n <;> rfl
  | _ => rfl

theorem undergo_changeEdge (id : Value) (change : Edge → Checked Edge) :
    s.undergo (Procedure.changeEdge id change) =
      s.ending (named id .noEdge fun i => s.changeEdge i change) := by
  cases id with
  | text i =>
    rw [Procedure.changeEdge, undergo_bind_demandEdge, named, Store.changeEdge]
    cases s.requireEdge i with
    | error e => rfl
    | ok e =>
      dsimp only
      cases change e <;> rfl
  | _ => rfl

/-- The steps of an edit lead to the store that is performed. Those of a refused edit leave the
store as it was. -/
theorem undergo_ofEdit (hkeys : s.edges.keys.Nodup) (x : Edit) :
    s.undergo (ofEdit x) = s.ending (s.perform x) := by
  cases x with
  | addNode n =>
    rw [ofEdit, undergo_bind_get, perform, addNode]
    cases s.nodes.has n.id <;> rfl
  | addEdge e =>
    rw [ofEdit, undergo_bind_demandNode, perform, addEdge]
    cases s.requireNode e.startId with
    | error x => rfl
    | ok start =>
      dsimp only
      rw [undergo_bind_demandNode]
      cases s.requireNode e.endId with
      | error x => rfl
      | ok finish =>
        dsimp only
        rw [undergo_bind_get, registerEdge]
        cases s.edges.has e.id <;> rfl
  | removeNode id =>
    cases id with
    | text i =>
      rw [ofEdit, undergo_bind_demandNode, perform, named, removeNode]
      cases hi : s.requireNode i with
      | error e => rfl
      | ok n =>
        have hhas : s.nodes.has i = true := has_node_iff.mpr ⟨n, hi⟩
        dsimp only
        rw [undergo_bind_get, undergo_bind_of_ok (undergo_deleteAttached hkeys i)]
        exact undergo_deleteNode hhas
    | _ => rfl
  | removeEdge id =>
    cases id with
    | text i =>
      rw [ofEdit, undergo_bind_demandEdge, perform, named, removeEdge]
      cases hi : s.requireEdge i with
      | error e => rfl
      | ok e => exact undergo_deleteEdge (has_edge_iff.mpr ⟨e, hi⟩)
    | _ => rfl
  | setNodeLabel id v => simp only [ofEdit, undergo_changeNode, perform, setNodeLabel]
  | setEdgeLabel id v => simp only [ofEdit, undergo_changeEdge, perform, setEdgeLabel]
  | setNodeProperties id ds => simp only [ofEdit, undergo_changeNode, perform, setNodeProperties]
  | setEdgeProperties id ds => simp only [ofEdit, undergo_changeEdge, perform, setEdgeProperties]
  | clear => rfl

end Steps

/-- Of three properties for a person the second has a key that is no identifier. -/
def misspelled : Edit := .setNodeProperties (.text "p") (.drafts [
  .property { key := "age", type := .text "Int" }, .value (.object [("key", .text "first name")]),
  .value (.object [("key", .text "born"), ("type", .text "Datetime")])])

example : town.perform misspelled = .error (.refused ⟨.node,
    [⟨[.field "properties", .index 1, .field "key"], .fieldName "first name"⟩]⟩) := by rfl

end Store
end GraphSchema
