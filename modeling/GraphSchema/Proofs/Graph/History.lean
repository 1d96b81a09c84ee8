import GraphSchema.Proofs.Graph.Integrity

/-! A store is its history. After any run of edits it holds the entities whose latest addition
nothing has undone, in the order of these additions, with the labels and properties last given to
them; and the edges at its nodes, on either side, are all its edges. -/
namespace GraphSchema

namespace Edit

def addedNode? : Edit → Option Node
  | .addNode n => some n
  | _ => none

def addedEdge? : Edit → Option Edge
  | .addEdge e => some e
  | _ => none

/-- Undoes the addition of a node with an id, or is a later one. -/
def outdatesNode (id : String) : Edit → Bool
  | .addNode n => n.id = id
  | .removeNode (.text i) => i = id
  | .clear => true
  | _ => false

/-- Undoes the addition of an edge, or is a later one with its id. An edge goes with its nodes. -/
def outdatesEdge (e : Edge) : Edit → Bool
  | .addEdge f => f.id = e.id
  | .removeEdge (.text i) => i = e.id
  | .removeNode (.text i) => e.startId = i || e.endId = i
  | .clear => true
  | _ => false

/-- The label that an edit gives to the node with an id. -/
def nodeLabel? (id : String) : Edit → Option String
  | .setNodeLabel (.text i) v => if i = id then (Check.label .node v).toOption else none
  | _ => none

def nodeProperties? (id : String) : Edit → Option (List Property)
  | .setNodeProperties (.text i) ds => if i = id then ds.check.toOption else none
  | _ => none

def edgeLabel? (id : String) : Edit → Option String
  | .setEdgeLabel (.text i) v => if i = id then (Check.label .edge v).toOption else none
  | _ => none

def edgeProperties? (id : String) : Edit → Option (List Property)
  | .setEdgeProperties (.text i) ds => if i = id then ds.check.toOption else none
  | _ => none

end Edit

section Standing
variable {α : Type}

/-- What edits give last, or what was there first if they give nothing. -/
def latest (given : Edit → Option α) (first : α) (later : List Edit) : α :=
  (later.filterMap given).getLast?.getD first

@[simp] theorem latest_concat (given : Edit → Option α) (first : α) (later : List Edit) (e : Edit) :
    latest given first (later ++ [e]) = (given e).getD (latest given first later) := by
  unfold latest
  rw [List.filterMap_append]
  cases h : given e with
  | none => simp [h]
  | some a => simp [h]

/-- What a history leaves standing: every entity whose addition nothing later outdates, as the later
edits leave it. -/
def standing (added? : Edit → Option α) (outdates : α → Edit → Bool) (since : List Edit → α → α) :
    List Edit → List α
  | [] => []
  | e :: later =>
    match added? e with
    | none => standing added? outdates since later
    | some a =>
      if later.any (outdates a) then standing added? outdates since later
      else since later a :: standing added? outdates since later

/-- A further edit takes out what it outdates, changes what it touches, and adds at the end. -/
theorem standing_concat {added? : Edit → Option α} {outdates : α → Edit → Bool}
    {since : List Edit → α → α} {change : Edit → α → α} (hnil : ∀ a, since [] a = a)
    (hconcat : ∀ later e a, since (later ++ [e]) a = change e (since later a))
    (hkeep : ∀ later a, outdates (since later a) = outdates a) (history : List Edit) (e : Edit) :
    standing added? outdates since (history ++ [e]) =
      ((standing added? outdates since history).filter fun a => !outdates a e).map (change e) ++
        (added? e).toList := by
  induction history with
  | nil =>
    cases h : added? e with
    | none => simp [standing, h]
    | some a => simp [standing, h, hnil]
  | cons x later ih =>
    rw [List.cons_append, standing, standing]
    cases added? x with
    | none => exact ih
    | some a =>
      simp only [List.any_append, List.any_cons, List.any_nil, Bool.or_false, ih]
      cases later.any (outdates a) with
      | true => rfl
      | false =>
        cases h : outdates a e with
        | true => simp [hkeep, h]
        | false => simp [hkeep, h, hconcat]

end Standing

/-- A node as later edits leave it. -/
def Node.since (later : List Edit) (n : Node) : Node :=
  { n with
    label := latest (Edit.nodeLabel? n.id) n.label later
    properties := latest (Edit.nodeProperties? n.id) n.properties later }

def Edge.since (later : List Edit) (e : Edge) : Edge :=
  { e with
    label := latest (Edit.edgeLabel? e.id) e.label later
    properties := latest (Edit.edgeProperties? e.id) e.properties later }

/-- A node as one edit leaves it. -/
def Node.revised (x : Edit) (n : Node) : Node :=
  { n with
    label := (x.nodeLabel? n.id).getD n.label
    properties := (x.nodeProperties? n.id).getD n.properties }

def Edge.revised (x : Edit) (e : Edge) : Edge :=
  { e with
    label := (x.edgeLabel? e.id).getD e.label
    properties := (x.edgeProperties? e.id).getD e.properties }

theorem Node.since_concat (later : List Edit) (x : Edit) (n : Node) :
    n.since (later ++ [x]) = (n.since later).revised x := by
  simp only [Node.since, Node.revised, latest_concat]

theorem Edge.since_concat (later : List Edit) (x : Edit) (e : Edge) :
    e.since (later ++ [x]) = (e.since later).revised x := by
  simp only [Edge.since, Edge.revised, latest_concat]

def standingNodes : List Edit → List Node :=
  standing Edit.addedNode? (fun n => Edit.outdatesNode n.id) Node.since

def standingEdges : List Edit → List Edge :=
  standing Edit.addedEdge? Edit.outdatesEdge Edge.since

theorem standingNodes_concat (history : List Edit) (x : Edit) :
    standingNodes (history ++ [x]) =
      ((standingNodes history).filter fun n => !x.outdatesNode n.id).map (Node.revised x) ++
        x.addedNode?.toList :=
  standing_concat (fun _ => rfl) Node.since_concat (fun _ _ => rfl) history x

theorem standingEdges_concat (history : List Edit) (x : Edit) :
    standingEdges (history ++ [x]) =
      ((standingEdges history).filter fun e => !x.outdatesEdge e).map (Edge.revised x) ++
        x.addedEdge?.toList :=
  standing_concat (fun _ => rfl) Edge.since_concat (fun _ _ => rfl) history x

namespace Registry
variable {α : Type} {r : Registry α} {idOf : α → String} {key : String}

theorem Keyed.entities_remove (h : r.Keyed idOf) (key : String) :
    (r.remove key).entities = r.entities.filter fun a => !decide (key = idOf a) := by
  have hown : r.remove key = List.filter (fun e => !decide (key = idOf e.2)) r := by
    apply List.filter_congr
    intro e he
    rw [h.own e he]
    simp [eq_comm]
  rw [hown]
  exact entities_filter fun a => !decide (key = idOf a)

/-- A replacement changes the entity with the key, and that is the only one. -/
theorem Keyed.entities_replace (h : r.Keyed idOf) {a : α} (found : r.get? key = some a)
    {change revise : α → α} (hrevise : ∀ c, revise c = if key = idOf c then change c else c) :
    (r.replace key (change a)).entities = r.entities.map revise := by
  rw [Registry.replace, entities, entities, List.map_map, List.map_map]
  apply List.map_congr_left
  intro e he
  have hown : e.1 = idOf e.2 := h.own e he
  rw [Function.comp_apply, Function.comp_apply, hrevise, ← hown]
  by_cases hkey : e.1 = key
  · have hget : r.get? (idOf e.2) = some e.2 := h.get?_own (List.mem_map_of_mem he)
    rw [← hown, hkey, found] at hget
    obtain rfl := Option.some.inj hget
    rw [if_pos hkey, if_pos hkey.symm]
  · rw [if_neg hkey, if_neg (Ne.symm hkey)]

theorem Keyed.fresh_ids (h : r.Keyed idOf) (fresh : r.has key = false) :
    ∀ a ∈ r.entities, key ≠ idOf a := by
  rintro a ha rfl
  simp [has, h.get?_own ha] at fresh

end Registry

section Revising
variable {id l : String} {v : Value} {ds : Drafts} {ps : List Property}

theorem Node.revised_label (checked : Check.label .node v = .ok l) (n : Node) :
    n.revised (.setNodeLabel (.text id) v) = if id = n.id then { n with label := l } else n := by
  simp only [Node.revised, Edit.nodeLabel?, Edit.nodeProperties?, checked]
  split
  next => rfl
  next => rfl

theorem Node.revised_properties (checked : ds.check = .ok ps) (n : Node) :
    n.revised (.setNodeProperties (.text id) ds) =
      if id = n.id then { n with properties := ps } else n := by
  simp only [Node.revised, Edit.nodeLabel?, Edit.nodeProperties?, checked]
  split
  next => rfl
  next => rfl

theorem Edge.revised_label (checked : Check.label .edge v = .ok l) (e : Edge) :
    e.revised (.setEdgeLabel (.text id) v) = if id = e.id then { e with label := l } else e := by
  simp only [Edge.revised, Edit.edgeLabel?, Edit.edgeProperties?, checked]
  split
  next => rfl
  next => rfl

theorem Edge.revised_properties (checked : ds.check = .ok ps) (e : Edge) :
    e.revised (.setEdgeProperties (.text id) ds) =
      if id = e.id then { e with properties := ps } else e := by
  simp only [Edge.revised, Edit.edgeLabel?, Edit.edgeProperties?, checked]
  split
  next => rfl
  next => rfl

end Revising

section Shapes
variable {α : Type} (as : List α)

/-- An edit that outdates, changes and adds nothing. -/
theorem untouched : as = (as.filter fun _ => !false).map id ++ (none : Option α).toList := by simp

/-- An edit that changes some entities in their places. -/
theorem changed (change : α → α) :
    as.map change = (as.filter fun _ => !false).map change ++ (none : Option α).toList := by simp

/-- An edit that takes out some entities. -/
theorem thinned (out : α → Bool) : (as.filter fun a => !out a) =
    (as.filter fun a => !out a).map id ++ (none : Option α).toList := by
  simp

/-- An edit that takes out all. -/
theorem emptied : [] = (as.filter fun _ => !true).map id ++ (none : Option α).toList := by simp

/-- An edit that adds an entity where nothing was of its id. -/
theorem extended {out : α → Bool} (h : ∀ a ∈ as, out a = false) (a : α) :
    as ++ [a] = (as.filter fun a => !out a).map id ++ (some a).toList := by
  rw [List.filter_eq_self.mpr fun b hb => by rw [h b hb, Bool.not_false], List.map_id]
  rfl

end Shapes

section Steps
variable {s t : Store} {x : Edit}

theorem Effect.allNodes (h : Effect s x t) (hs : s.Keyed) :
    t.allNodes = (s.allNodes.filter fun n => !x.outdatesNode n.id).map (Node.revised x) ++
      x.addedNode?.toList := by
  cases h with
  | @addNode m fresh =>
    have hfresh : ∀ n ∈ s.allNodes, decide (m.id = n.id) = false := fun n hn =>
      decide_eq_false (hs.nodes.fresh_ids fresh n hn)
    have hadd : (s.nodes.add m.id m).entities = s.allNodes ++ [m] := List.map_append
    exact hadd.trans (extended _ hfresh m)
  | @removeNode i _ => exact (hs.nodes.entities_remove i).trans (thinned _ _)
  | labelNode found checked =>
    exact (hs.nodes.entities_replace found (Node.revised_label checked)).trans (changed _ _)
  | fillNode found checked =>
    exact (hs.nodes.entities_replace found (Node.revised_properties checked)).trans (changed _ _)
  | clear => exact emptied _
  | addEdge _ _ _ => exact untouched _
  | removeEdge _ => exact untouched _
  | labelEdge _ _ => exact untouched _
  | fillEdge _ _ => exact untouched _

theorem Effect.allEdges (h : Effect s x t) (hs : s.Keyed) :
    t.allEdges = (s.allEdges.filter fun e => !x.outdatesEdge e).map (Edge.revised x) ++
      x.addedEdge?.toList := by
  cases h with
  | @addEdge f _ _ fresh =>
    have hfresh : ∀ e ∈ s.allEdges, decide (f.id = e.id) = false := fun e he =>
      decide_eq_false (hs.edges.fresh_ids fresh e he)
    have hadd : (s.edges.add f.id f).entities = s.allEdges ++ [f] := List.map_append
    exact hadd.trans (extended _ hfresh f)
  | @removeNode i _ =>
    have hfilter := Registry.entities_filter (r := s.edges) fun e => !Store.touches i e
    exact hfilter.trans (thinned _ (Store.touches i))
  | removeEdge _ => exact (hs.edges.entities_remove _).trans (thinned _ _)
  | labelEdge found checked =>
    exact (hs.edges.entities_replace found (Edge.revised_label checked)).trans (changed _ _)
  | fillEdge found checked =>
    exact (hs.edges.entities_replace found (Edge.revised_properties checked)).trans (changed _ _)
  | clear => exact emptied _
  | addNode _ => exact untouched _
  | labelNode _ _ => exact untouched _
  | fillNode _ _ => exact untouched _

end Steps

namespace Store

/-- The edits of a run that succeed, in order. -/
def successes (s : Store) : List Edit → List Edit
  | [] => []
  | x :: xs =>
    match s.perform x with
    | .ok t => x :: t.successes xs
    | .error _ => s.successes xs

/-- A store holds what a history leaves standing. -/
structure Records (history : List Edit) (s : Store) : Prop where
  nodes : s.allNodes = standingNodes history
  edges : s.allEdges = standingEdges history

theorem Records.step {s t : Store} {x : Edit} {history : List Edit} (h : Effect s x t)
    (hs : s.Keyed) (hr : Records history s) : Records (history ++ [x]) t := by
  constructor
  case nodes => rw [h.allNodes hs, hr.nodes, standingNodes_concat]
  case edges => rw [h.allEdges hs, hr.edges, standingEdges_concat]

theorem Records.run {s : Store} {history : List Edit} (hs : s.Keyed) (hr : Records history s)
    (xs : List Edit) : Records (history ++ s.successes xs) (s.afterAll xs) := by
  induction xs generalizing s history with
  | nil => rwa [successes, List.append_nil]
  | cons x xs ih =>
    rw [afterAll, List.foldl_cons, successes, after]
    cases h : s.perform x with
    | error e => exact ih hs hr
    | ok t =>
      have heffect : Effect s x t := .of_perform h
      have hrest := ih (heffect.keyed hs) (hr.step heffect hs)
      rwa [List.append_assoc] at hrest

section Partition
variable {s : Store}

/-- Cut by a key that is among given ones, a list falls into parts without rest or overlap. -/
theorem perm_of_keys {α : Type} {as : List α} {key : α → String} {keys : List String}
    (hdistinct : keys.Nodup) (hkeys : ∀ a ∈ as, key a ∈ keys) :
    (keys.flatMap fun k => as.filter fun a => key a = k).Perm as := by
  induction keys generalizing as with
  | nil =>
    have hnone : as = [] := List.eq_nil_iff_forall_not_mem.mpr fun a ha =>
      absurd (hkeys a ha) List.not_mem_nil
    rw [hnone]
    exact .nil
  | cons k ks ih =>
    obtain ⟨hk, hks⟩ := List.nodup_cons.mp hdistinct
    have hrest : ∀ a ∈ as.filter fun a => !decide (key a = k), key a ∈ ks := by
      intro a ha
      obtain ⟨ha, hne⟩ := List.mem_filter.mp ha
      exact (List.mem_cons.mp (hkeys a ha)).resolve_left (by simpa using hne)
    -- Under the other keys nothing is lost with the entities of this one.
    have hsame : (ks.flatMap fun l => as.filter fun a => key a = l) =
        ks.flatMap fun l => (as.filter fun a => !decide (key a = k)).filter fun a => key a = l := by
      refine List.flatMap_congr fun l hl => ?_
      rw [List.filter_filter]
      refine List.filter_congr fun a _ => ?_
      by_cases hal : key a = l
      · have hne : key a ≠ k := fun heq => hk (heq ▸ hal ▸ hl)
        simp [hal, hal ▸ hne]
      · simp [hal]
    rw [List.flatMap_cons, hsame]
    exact ((ih hks hrest).append_left _).trans (List.filter_append_perm _ as)

variable (hs : s.Sound)
include hs

theorem perm_startingAt : (s.allNodes.flatMap fun n => s.startingAt n.id).Perm s.allEdges := by
  have hkeys : ∀ e ∈ s.allEdges, e.startId ∈ s.allNodes.map Node.id := fun e he =>
    hs.nodes.map_ids ▸ (hs.linked e he).1
  have hperm := perm_of_keys hs.nodes.nodup_ids hkeys
  rwa [List.flatMap_map] at hperm

theorem perm_endingAt : (s.allNodes.flatMap fun n => s.endingAt n.id).Perm s.allEdges := by
  have hkeys : ∀ e ∈ s.allEdges, e.endId ∈ s.allNodes.map Node.id := fun e he =>
    hs.nodes.map_ids ▸ (hs.linked e he).2
  have hperm := perm_of_keys hs.nodes.nodup_ids hkeys
  rwa [List.flatMap_map] at hperm

end Partition

/-- After any run, refused edits included, the store holds what the successful edits leave standing,
each id once. The edges that start at its nodes are all its edges, and so are those that end at
them. -/
theorem run_history (xs : List Edit) :
    let s := empty.afterAll xs
    let history := empty.successes xs
    s.allNodes = standingNodes history ∧ s.allEdges = standingEdges history ∧
      (s.allNodes.map Node.id).Nodup ∧ (s.allEdges.map Edge.id).Nodup ∧
      (∀ id, s.startingAt id = s.allEdges.filter fun e => e.startId = id) ∧
      (∀ id, s.endingAt id = s.allEdges.filter fun e => e.endId = id) ∧
      (s.allNodes.flatMap fun n => s.startingAt n.id).Perm s.allEdges ∧
      (s.allNodes.flatMap fun n => s.endingAt n.id).Perm s.allEdges := by
  have hempty : Records [] empty := ⟨rfl, rfl⟩
  obtain ⟨hnodes, hedges⟩ := hempty.run keyed_empty xs
  have hsound : (empty.afterAll xs).Sound :=
    afterAll_keeps (fun (_ : True) => Effect.sound) (fun _ _ => trivial) (Origin.sound .empty)
  obtain ⟨hnodeIds, hedgeIds⟩ := hsound.toKeyed.distinct
  exact ⟨hnodes, hedges, hnodeIds, hedgeIds, fun _ => rfl, fun _ => rfl, perm_startingAt hsound,
    perm_endingAt hsound⟩

/-- A node that is added again comes last, without the edges that it had. -/
example :
    let a : Node := { id := "a", label := "person" }
    let b : Node := { id := "b", label := "town" }
    let k : Edge := { id := "k", label := "in", startId := "a", endId := "b" }
    let s := empty.afterAll
      [.addNode a, .addNode b, .addEdge k, .removeNode (.text "a"), .addNode a]
    (s.allNodes, s.allEdges) = ([b, a], []) := rfl

end Store
end GraphSchema
