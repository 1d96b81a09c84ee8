import GraphSchema.Proofs.Schema.Printing

/-! How generation ends for a store: with the first endpoint that is missing, or else with the
collisions where these are forbidden, or else with the first property that cannot be declared, or
else with a document. There is no other end. A property cannot be declared if its type is no scalar,
or if one of its values cannot be written as text. -/
namespace GraphSchema

/-- What an outcome failed with. -/
def failure? {ε α : Type} : Except ε α → Option ε
  | .error e => some e
  | .ok _ => none

section Failures
variable {ε α β : Type} {r : Except ε α}

theorem failure?_eq_none : failure? r = none ↔ ∃ a, r = .ok a := by
  cases r <;> simp [failure?]

theorem failure?_eq_some {e : ε} : failure? r = some e ↔ r = .error e := by
  cases r <;> simp [failure?]

theorem failure?_map (f : α → β) : failure? (r.map f) = failure? r := by
  cases r <;> rfl

/-- Steps in order fail as the first step that fails. -/
theorem Provider.failure?_eachOk (step : α → Except ε β) (as : List α) :
    failure? (eachOk step as) = as.findSome? fun a => failure? (step a) := by
  induction as with
  | nil => rfl
  | cons a as ih =>
    rw [eachOk, List.findSome?_cons]
    cases step a with
    | error e => rfl
    | ok b =>
      simp only [failure?] at ih ⊢
      rw [← ih]
      cases eachOk step as <;> rfl

end Failures

/-- What keeps a property from being declared. -/
def Property.fault? (p : Property) : Option FieldError := failure? p.described

/-- A value of a property meets a limit where it is written: in the report of a type that is no
scalar, or else in the comment. -/
def Property.Exceeds (p : Property) (limit : WritingLimit) : Prop :=
  p.scalar? = none ∧ p.type.beyond? = some limit ∨ p.scalar?.isSome ∧ p.beyond? = some limit

/-- What keeps the first property that cannot be declared from it. -/
def firstFault? (ps : List Property) : Option FieldError := ps.findSome? Property.fault?

namespace Property
variable {p : Property}

theorem fault?_eq_none : p.fault? = none ↔ p.Declarable := by
  rw [fault?, failure?_eq_none, declarable_iff, Option.isSome_iff_exists]
  simp only [described_eq_ok, exists_and_right]

theorem fault?_eq_unsupported {u : Unsupported} :
    p.fault? = some (.unsupported u) ↔
      p.scalar? = none ∧ p.type.beyond? = none ∧ u = ⟨p.key, p.type⟩ := by
  unfold fault? described scalar
  cases p.scalar? with
  | none => cases p.type.beyond? <;> simp [failure?, eq_comm]
  | some t => cases p.beyond? <;> simp [failure?]

theorem fault?_eq_beyond {limit : WritingLimit} :
    p.fault? = some (.beyond limit) ↔ p.Exceeds limit := by
  unfold fault? described scalar Exceeds
  cases p.scalar? with
  | none => cases p.type.beyond? <;> simp [failure?]
  | some t => cases p.beyond? <;> simp [failure?]

end Property

section Rendering
variable {ps qs : List Property}

theorem firstFault?_append :
    firstFault? (ps ++ qs) = (firstFault? ps).or (firstFault? qs) := List.findSome?_append

theorem firstFault?_flatMap {α : Type} (f : α → List Property) (as : List α) :
    firstFault? (as.flatMap f) = as.findSome? fun a => firstFault? (f a) := by
  induction as with
  | nil => rfl
  | cons a as ih =>
    rw [List.flatMap_cons, firstFault?_append, ih, List.findSome?_cons]
    cases firstFault? (f a) <;> rfl

theorem firstFault?_eq_none : firstFault? ps = none ↔ ∀ p ∈ ps, p.Declarable := by
  simp only [firstFault?, List.findSome?_eq_none_iff, Property.fault?_eq_none]

theorem firstFault?_eq_some {e : FieldError} :
    firstFault? ps = some e ↔ ∃ before p after, ps = before ++ p :: after ∧
      p.fault? = some e ∧ ∀ q ∈ before, q.Declarable := by
  simp only [firstFault?, List.findSome?_eq_some_iff, Property.fault?_eq_none]

theorem failure?_propertyLines : failure? (propertyLines ps) = firstFault? ps := by
  induction ps with
  | nil => rfl
  | cons p ps ih =>
    have hlines : failure? (p.lines indent) = p.fault? := failure?_map _
    rw [propertyLines, firstFault?, List.findSome?_cons, ← firstFault?, ← ih, ← hlines]
    cases p.lines indent with
    | error e => rfl
    | ok ls => cases propertyLines ps <;> rfl

/-- The input type has no property that the object type, which is made first, does not have. -/
theorem Node.failure?_fragment (n : Node) (outgoing : List Link) :
    failure? (n.fragment outgoing) = firstFault? n.properties := by
  cases hf : firstFault? n.properties with
  | none =>
    exact failure?_eq_none.mpr ⟨_, Node.fragment_eq_ok.mpr ⟨firstFault?_eq_none.mp hf, rfl⟩⟩
  | some e =>
    have htype : n.typeLines outgoing = .error e := by
      rw [← failure?_eq_some, Node.typeLines, failure?_map, failure?_propertyLines, hf]
    rw [Node.fragment, htype]
    rfl

theorem Link.failure?_edgeFragment (l : Link) :
    failure? l.edgeFragment = firstFault? l.edge.properties := by
  rw [Link.edgeFragment, Link.edgeLines, failure?_map, failure?_map, failure?_propertyLines]

/-- All nodes are rendered before the first edge. -/
theorem failure?_render (p : Provider) (links : List Link) (outgoing : Outgoing) :
    failure? (render p links outgoing).outcome =
      (firstFault? (p.nodes.flatMap Node.properties ++
        links.flatMap (·.edge.properties))).map .field := by
  have hnodes : failure? (Provider.eachOk (fun n => n.fragment (outgoing.of n)) p.nodes) =
      firstFault? (p.nodes.flatMap Node.properties) := by
    simp only [Provider.failure?_eachOk, Node.failure?_fragment, firstFault?_flatMap]
  have hedges : failure? (Provider.eachOk Link.edgeFragment links) =
      firstFault? (links.flatMap (·.edge.properties)) := by
    simp only [Provider.failure?_eachOk, Link.failure?_edgeFragment, firstFault?_flatMap]
  rw [firstFault?_append, ← hnodes, ← hedges, render]
  cases Provider.eachOk (fun n => n.fragment (outgoing.of n)) p.nodes with
  | error u => rfl
  | ok nodeTexts =>
    cases Provider.eachOk Link.edgeFragment links with
    | error u => rfl
    | ok edgeTexts => rfl

end Rendering

/-- An end of an edge that names no node. -/
structure Gap where
  edgeId : String
  nodeId : String
  role : Role
  deriving DecidableEq, Repr

def Gap.error (g : Gap) : GenerationError := .missingEndpoint g.edgeId g.nodeId g.role

namespace Store

/-- The end of an edge that is missing in a store; the start is looked at first. -/
def gap? (s : Store) (e : Edge) : Option Gap :=
  if s.nodes.has e.startId then
    if s.nodes.has e.endId then none else some ⟨e.id, e.endId, .finish⟩
  else some ⟨e.id, e.startId, .start⟩

def firstGap? (s : Store) : Option Gap := s.allEdges.findSome? s.gap?

/-- The properties of all nodes, then those of all edges. -/
def properties (s : Store) : List Property :=
  s.allNodes.flatMap Node.properties ++ s.allEdges.flatMap Edge.properties

/-- The links that start at each node. -/
def outgoing (s : Store) : Outgoing := s.allNodes.map fun n => (n.id, s.knownFrom s.links n.id)

def collisions (s : Store) : List String := namingCollisions s.allNodes s.links s.outgoing

/-- Collisions unless they are ignored, then the names that are no identifiers if these are wanted.
-/
def warnings (s : Store) (d : Diagnosis) : List String :=
  (if d.collisions = .ignore then [] else s.collisions) ++
    if d.checkIdentifiers then invalidIdentifiers s.allNodes s.links else []

variable {s : Store} {d : Diagnosis}

theorem failure?_resolve (s : Store) (e : Edge) :
    failure? (s.provider.resolve e) = (s.gap? e).map Gap.error := by
  have hnode (id : String) : s.provider.node? id = s.nodes.get? id := rfl
  rw [Provider.resolve, hnode, hnode, gap?, Registry.has, Registry.has]
  cases s.nodes.get? e.startId with
  | none => simp [failure?, Gap.error]
  | some start => cases s.nodes.get? e.endId <;> simp [failure?, Gap.error]

theorem isOk_resolve (s : Store) (e : Edge) :
    (s.provider.resolve e).isOk = (s.gap? e).isNone := by
  have hfailure := s.failure?_resolve e
  cases hr : s.provider.resolve e with
  | ok l =>
    rw [hr] at hfailure
    rw [Option.map_eq_none_iff.mp hfailure.symm]
    rfl
  | error x =>
    rw [hr] at hfailure
    obtain ⟨g, hg, -⟩ := Option.map_eq_some_iff.mp hfailure.symm
    rw [hg]
    rfl

theorem edgeId_of_gap {e : Edge} {g : Gap} (h : s.gap? e = some g) : g.edgeId = e.id := by
  unfold gap? at h
  split at h
  next =>
    split at h
    next => simp at h
    next => exact Option.some.inj h ▸ rfl
  next => exact Option.some.inj h ▸ rfl

theorem nodeId_of_gap {e : Edge} {g : Gap} (h : s.gap? e = some g) :
    g.nodeId = e.startId ∨ g.nodeId = e.endId := by
  unfold gap? at h
  split at h
  next =>
    split at h
    next => simp at h
    next => exact .inr (Option.some.inj h ▸ rfl)
  next => exact .inl (Option.some.inj h ▸ rfl)

theorem failure?_resolveAll (s : Store) :
    failure? (s.provider.resolveAll s.allEdges) = s.firstGap?.map Gap.error := by
  rw [Provider.resolveAll, Provider.failure?_eachOk, funext (failure?_resolve s), firstGap?,
    List.map_findSome?]
  rfl

theorem resolveAll_of_firstGap? (h : s.firstGap? = none) :
    s.provider.resolveAll s.allEdges = .ok s.links := by
  obtain ⟨links, hl⟩ := failure?_eq_none.mp ((failure?_resolveAll s).trans (congrArg _ h))
  rw [hl, eq_links_of_resolveAll hl]

theorem warnings_eq (s : Store) (d : Diagnosis) :
    d.warnings s.allNodes s.links s.outgoing =
      if d.collisions = .error ∧ s.collisions ≠ [] then .error (.collisions s.collisions)
      else .ok (s.warnings d) := by
  obtain ⟨policy, checkIdentifiers⟩ := d
  cases policy <;> rfl

theorem plan_eq (s : Store) (d : Diagnosis) :
    d.plan s.provider =
      match s.firstGap? with
      | some g => .error g.error
      | none =>
        if d.collisions = .error ∧ s.collisions ≠ [] then .error (.collisions s.collisions)
        else .ok ⟨s.links, s.outgoing, s.warnings d⟩ := by
  unfold Diagnosis.plan
  cases hg : s.firstGap? with
  | some g =>
    have hl : s.provider.resolveAll s.provider.edges = .error g.error :=
      failure?_eq_some.mp ((failure?_resolveAll s).trans (congrArg _ hg))
    rw [hl]
  | none =>
    have hl : s.provider.resolveAll s.provider.edges = .ok s.links := resolveAll_of_firstGap? hg
    have ho : s.provider.outgoing s.links = .ok s.outgoing := outgoing_eq hl
    have hw : d.warnings s.provider.nodes s.links s.outgoing = _ := warnings_eq s d
    simp only [hl, ho, hw]
    by_cases hc : d.collisions = .error ∧ s.collisions ≠ []
    · simp only [if_pos hc]
    · simp only [if_neg hc]

theorem render_eq (h : s.firstGap? = none) :
    (render s.provider s.links s.outgoing).outcome =
      match firstFault? s.properties with
      | some e => .error (.field e)
      | none => .ok s.outline.text := by
  have hedges : s.links.map Link.edge = s.allEdges :=
    Provider.resolveAll_edges (resolveAll_of_firstGap? h)
  have hproperties : s.provider.nodes.flatMap Node.properties ++
      s.links.flatMap (·.edge.properties) = s.properties := by
    rw [properties, ← hedges, List.flatMap_map]
    rfl
  have hfailure := failure?_render s.provider s.links s.outgoing
  rw [hproperties] at hfailure
  cases he : firstFault? s.properties with
  | some e =>
    rw [he] at hfailure
    exact failure?_eq_some.mp hfailure
  | none =>
    rw [he] at hfailure
    obtain ⟨document, hdocument⟩ := failure?_eq_none.mp hfailure
    have houtline : Outline.of s.provider.nodes s.links s.outgoing.of = s.outline :=
      Outline.of_congr fun n hn => Outgoing.of_map hn
    rw [hdocument, (render_eq_ok.mp hdocument).2, houtline]

/-- Generation of any store, checked or not, by the causes of failure in their order. -/
theorem generate_eq (s : Store) (d : Diagnosis) :
    (d.generate s.provider).outcome =
      match s.firstGap? with
      | some g => .error g.error
      | none =>
        if d.collisions = .error ∧ s.collisions ≠ [] then .error (.collisions s.collisions)
        else
          match firstFault? s.properties with
          | some e => .error (.field e)
          | none =>
            .ok ⟨s.outline.text, s.allNodes.length, s.allEdges.length, s.warnings d⟩ := by
  unfold Diagnosis.generate
  rw [plan_eq]
  cases hg : s.firstGap? with
  | some g => rfl
  | none =>
    by_cases hc : d.collisions = .error ∧ s.collisions ≠ []
    · simp only [if_pos hc]
    · simp only [if_neg hc, render_eq hg]
      cases firstFault? s.properties <;> rfl

/-- The ways in which generation ends; what one of them requires, those before it exclude. -/
inductive Ends (s : Store) (d : Diagnosis) : Except GenerationError Generated → Prop where
  | missing {before after : List Edge} {e : Edge} {g : Gap}
      (place : s.allEdges = before ++ e :: after) (first : ∀ f ∈ before, s.gap? f = none)
      (gap : s.gap? e = some g) :
      Ends s d (.error (.missingEndpoint g.edgeId g.nodeId g.role))
  | collisions (whole : ∀ e ∈ s.allEdges, s.gap? e = none) (policy : d.collisions = .error)
      (found : s.collisions ≠ []) : Ends s d (.error (.collisions s.collisions))
  | unsupported {before after : List Property} {p : Property}
      (whole : ∀ e ∈ s.allEdges, s.gap? e = none)
      (allowed : d.collisions = .error → s.collisions = [])
      (place : s.properties = before ++ p :: after) (first : ∀ q ∈ before, q.Declarable)
      (type : p.scalar? = none) (told : p.type.beyond? = none) :
      Ends s d (.error (.field (.unsupported ⟨p.key, p.type⟩)))
  | beyond {before after : List Property} {p : Property} {limit : WritingLimit}
      (whole : ∀ e ∈ s.allEdges, s.gap? e = none)
      (allowed : d.collisions = .error → s.collisions = [])
      (place : s.properties = before ++ p :: after) (first : ∀ q ∈ before, q.Declarable)
      (exceeds : p.Exceeds limit) : Ends s d (.error (.field (.beyond limit)))
  | generated (whole : ∀ e ∈ s.allEdges, s.gap? e = none)
      (allowed : d.collisions = .error → s.collisions = [])
      (declarable : ∀ p ∈ s.properties, p.Declarable) :
      Ends s d (.ok ⟨s.outline.text, s.allNodes.length, s.allEdges.length, s.warnings d⟩)

theorem firstGap?_eq_some {g : Gap} :
    s.firstGap? = some g ↔ ∃ before e after, s.allEdges = before ++ e :: after ∧
      s.gap? e = some g ∧ ∀ f ∈ before, s.gap? f = none := List.findSome?_eq_some_iff

theorem firstGap?_eq_none : s.firstGap? = none ↔ ∀ e ∈ s.allEdges, s.gap? e = none :=
  List.findSome?_eq_none_iff

theorem ends_generate (s : Store) (d : Diagnosis) : s.Ends d (d.generate s.provider).outcome := by
  rw [generate_eq]
  split
  next g hg =>
    obtain ⟨before, e, after, place, gap, first⟩ := firstGap?_eq_some.mp hg
    exact .missing place first gap
  next hg =>
    have whole := firstGap?_eq_none.mp hg
    split
    next hc => exact .collisions whole hc.1 hc.2
    next hc =>
      have allowed (policy : d.collisions = .error) : s.collisions = [] :=
        not_not.mp fun found => hc ⟨policy, found⟩
      split
      next e he =>
        obtain ⟨before, p, after, place, hp, first⟩ := firstFault?_eq_some.mp he
        cases e with
        | unsupported u =>
          obtain ⟨type, told, rfl⟩ := Property.fault?_eq_unsupported.mp hp
          exact .unsupported whole allowed place first type told
        | beyond limit =>
          exact .beyond whole allowed place first (Property.fault?_eq_beyond.mp hp)
      next he => exact .generated whole allowed (firstFault?_eq_none.mp he)

variable {r : Except GenerationError Generated}

theorem Ends.eq_generate (h : s.Ends d r) : (d.generate s.provider).outcome = r := by
  rw [generate_eq]
  cases h with
  | @missing before after e g place first gap =>
    have hg : s.firstGap? = some g := firstGap?_eq_some.mpr ⟨before, e, after, place, gap, first⟩
    rw [hg]
    rfl
  | collisions whole policy found =>
    rw [firstGap?_eq_none.mpr whole]
    exact if_pos ⟨policy, found⟩
  | @unsupported before after p whole allowed place first type told =>
    have hp := Property.fault?_eq_unsupported.mpr ⟨type, told, rfl⟩
    rw [firstGap?_eq_none.mpr whole, firstFault?_eq_some.mpr ⟨before, p, after, place, hp, first⟩]
    exact if_neg fun hc => hc.2 (allowed hc.1)
  | @beyond before after p limit whole allowed place first exceeds =>
    have hp := Property.fault?_eq_beyond.mpr exceeds
    rw [firstGap?_eq_none.mpr whole, firstFault?_eq_some.mpr ⟨before, p, after, place, hp, first⟩]
    exact if_neg fun hc => hc.2 (allowed hc.1)
  | generated whole allowed declarable =>
    rw [firstGap?_eq_none.mpr whole, firstFault?_eq_none.mpr declarable]
    exact if_neg fun hc => hc.2 (allowed hc.1)

/-- Generation of any store, checked or not, ends in exactly one of these ways. -/
theorem ends_iff : s.Ends d r ↔ (d.generate s.provider).outcome = r :=
  ⟨Ends.eq_generate, fun h => h ▸ ends_generate s d⟩

end Store

/-- A number inside so many lists. -/
def Value.nested : Nat → Value
  | 0 => .int 0
  | n + 1 => .list [nested n]

theorem Value.beyondIn_nested (n levels : Nat) :
    (nested n).beyondIn levels = if n < levels then none else some .depth := by
  induction n generalizing levels with
  | zero =>
    cases levels with
    | zero => rfl
    | succ levels => rfl
  | succ n ih =>
    cases levels with
    | zero => rfl
    | succ levels =>
      rw [nested, beyondIn, beyondItems, beyondItems, ih, Option.or_none]
      simp only [Nat.succ_lt_succ_iff]

/-- Each list takes a level, and so does the number. -/
theorem Value.beyond?_nested {n : Nat} (h : mostLevels ≤ n) : (nested n).beyond? = some .depth := by
  have hbeyond : (nested n).beyond? = (nested n).beyondIn mostLevels := by cases n <;> rfl
  rw [hbeyond, beyondIn_nested, if_neg (Nat.not_lt.mpr h)]

namespace Store

/-- One node, with a default that stands inside more lists than can be written. -/
def warren : Store where
  nodes := [("w", { id := "w", label := "warren", properties := [
    { key := "plan", defaultValue := .nested 987 }] })]

theorem outcome_warren (d : Diagnosis) :
    (d.generate warren.provider).outcome = .error (.field (.beyond .depth)) := by
  have hwhole : ∀ e ∈ warren.allEdges, warren.gap? e = none :=
    fun _ he => absurd he List.not_mem_nil
  have hcollisions : warren.collisions = [] := by decide +kernel
  have hdescription : (Value.text "").beyond? = none := rfl
  have hdefault : (Value.nested 987).beyond? = some .depth := Value.beyond?_nested (by decide)
  have hplan : Property.Exceeds { key := "plan", defaultValue := .nested 987 } .depth := by
    refine .inr ⟨rfl, ?_⟩
    simp only [Property.beyond?, List.findSome?_cons, hdescription, hdefault]
  have hnone : ∀ q ∈ ([] : List Property), q.Declarable := fun _ hq => absurd hq List.not_mem_nil
  exact (Ends.beyond hwhole (fun _ => hcollisions) rfl hnone hplan).eq_generate

/-- A property of one of the ten types, and yet none of the three errors is what generation ends
with, nor a document. -/
theorem generate_warren :
    ∃ x, (Diagnosis.generate {} warren.provider).outcome = .error x ∧
      (∀ edgeId nodeId role, x ≠ .missingEndpoint edgeId nodeId role) ∧
      (∀ messages, x ≠ .collisions messages) ∧ ∀ u, x ≠ .field (.unsupported u) :=
  ⟨_, outcome_warren {}, by simp, by simp, by simp⟩

end Store
end GraphSchema
