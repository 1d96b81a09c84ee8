import GraphSchema.Proofs.Schema.Collisions
import Mathlib.Data.List.Induction

/-! The report of collisions is exact: for each kind of names it has one message for every name that
is claimed more than once or that shadows a fixed one, in the order of first claims, and no other.
-/
namespace GraphSchema

/-- Of the names that are claimed, those to report: each once, in the order of first claims. -/
structure Reported (claims : List String) (wanted : String → Prop) (names : List String) :
    Prop where
  mem_iff : ∀ name, name ∈ names ↔ name ∈ claims ∧ wanted name
  ordered : names.Pairwise fun a b => claims.idxOf a < claims.idxOf b

section Order
variable {claims names : List String} {wanted : String → Prop}

theorem Reported.nodup (h : Reported claims wanted names) : names.Nodup :=
  h.ordered.imp fun hlt heq => absurd (heq ▸ hlt) (Nat.lt_irrefl _)

theorem reported_nil : Reported [] wanted [] := ⟨by simp, List.Pairwise.nil⟩

theorem Reported.filter [DecidablePred wanted] (h : Reported claims (fun _ => True) names) :
    Reported claims wanted (names.filter wanted) := by
  constructor
  case mem_iff =>
    intro name
    rw [List.mem_filter, h.mem_iff, and_true, decide_eq_true_iff]
  case ordered => exact h.ordered.sublist List.filter_sublist

/-- A further claim opens a place at the end, unless its name has one. -/
theorem Reported.concat (h : Reported claims (fun _ => True) names) (c : String) :
    Reported (claims ++ [c]) (fun _ => True) (if c ∈ names then names else names ++ [c]) := by
  have hmem (name : String) : name ∈ names ↔ name ∈ claims := by simp [h.mem_iff]
  -- The first place of a name that was claimed before stays what it was.
  have hidx {a : String} (ha : a ∈ names) : (claims ++ [c]).idxOf a = claims.idxOf a :=
    List.idxOf_append_of_mem ((hmem a).mp ha)
  have hordered : names.Pairwise fun a b => (claims ++ [c]).idxOf a < (claims ++ [c]).idxOf b := by
    apply h.ordered.imp_of_mem
    intro a b ha hb hlt
    rwa [hidx ha, hidx hb]
  split
  next hc =>
    refine ⟨fun name => ?_, hordered⟩
    rw [hmem, List.mem_append, List.mem_singleton, and_true]
    constructor
    · exact Or.inl
    · rintro (hname | rfl)
      · exact hname
      · exact (hmem _).mp hc
  next hc =>
    constructor
    case mem_iff =>
      intro name
      simp [hmem]
    case ordered =>
      rw [List.pairwise_append]
      refine ⟨hordered, List.pairwise_singleton .., ?_⟩
      intro a ha b hb
      obtain rfl := List.mem_singleton.mp hb
      have hfresh : b ∉ claims := fun hb => hc ((hmem b).mpr hb)
      rw [hidx ha, List.idxOf_append_of_notMem hfresh]
      exact Nat.lt_add_right _ (List.idxOf_lt_length_iff.mpr ((hmem a).mp ha))

end Order

/-- The names of bearings, as often as each is borne. -/
def claimed (bs : List Bearing) : List String := bs.map (·.1)

section Tables
variable {groups : List Owners} {bs : List Bearing}

theorem names_addBearing (groups : List Owners) (b : Bearing) :
    (addBearing groups b).map (·.1) =
      if b.1 ∈ groups.map (·.1) then groups.map (·.1) else groups.map (·.1) ++ [b.1] := by
  induction groups with
  | nil => rfl
  | cons g gs ih =>
    unfold addBearing
    by_cases h : g.1 = b.1
    · simp [h]
    · rw [if_neg h, List.map_cons, ih]
      simp only [List.map_cons, List.mem_cons, Ne.symm h, false_or]
      split
      next => rfl
      next => rfl

/-- The built-in query takes the place that a claim at the end would take. -/
theorem names_withBuiltIn (groups : List Owners) (owner : String) :
    (withBuiltIn groups).map (·.1) = (addBearing groups ("nodes", owner)).map (·.1) := by
  induction groups with
  | nil => rfl
  | cons g gs ih =>
    unfold withBuiltIn addBearing
    by_cases h : g.1 = "nodes"
    · simp [h]
    · rw [if_neg h, if_neg h, List.map_cons, List.map_cons, ih]

theorem grouped_concat (bs : List Bearing) (b : Bearing) :
    grouped (bs ++ [b]) = addBearing (grouped bs) b := List.foldl_concat ..

theorem reported_grouped (bs : List Bearing) :
    Reported (claimed bs) (fun _ => True) ((grouped bs).map (·.1)) := by
  induction bs using List.reverseRecOn with
  | nil => exact reported_nil
  | append_singleton bs b ih =>
    rw [grouped_concat, names_addBearing, claimed, List.map_append]
    exact ih.concat b.1

/-- In a table without repeated names every group has its own owners. -/
theorem owners_of_mem (hnodup : (groups.map (·.1)).Nodup) {g : Owners} (hg : g ∈ groups) :
    ownersIn groups g.1 = g.2 := by
  induction groups with
  | nil => exact absurd hg List.not_mem_nil
  | cons a as ih =>
    rw [List.map_cons, List.nodup_cons] at hnodup
    rw [ownersIn_cons]
    rcases List.mem_cons.mp hg with rfl | hg
    · exact if_pos rfl
    · have hne : g.1 ≠ a.1 := fun heq => hnodup.1 (heq ▸ List.mem_map_of_mem hg)
      rw [if_neg hne, ih hnodup.2 hg]

/-- In a table with the owners of all names, a name goes with its owners. -/
theorem groups_eq {owners : String → List String} (hnodup : (groups.map (·.1)).Nodup)
    (howners : ∀ name, ownersIn groups name = owners name) :
    groups = (groups.map (·.1)).map fun name => (name, owners name) := by
  have heach : ∀ g ∈ groups, (g.1, owners g.1) = id g := by
    intro g hg
    rw [← howners, owners_of_mem hnodup hg, id]
  rw [List.map_map]
  exact ((List.map_congr_left heach).trans (List.map_id _)).symm

end Tables

section Telling
variable {wanted : String → Prop} [DecidablePred wanted]

theorem filterMap_told {told : String → Option String} {message : String → String}
    (hsome : ∀ name, wanted name → told name = some (message name))
    (hnone : ∀ name, ¬wanted name → told name = none) (names : List String) :
    names.filterMap told = (names.filter wanted).map message := by
  induction names with
  | nil => rfl
  | cons name names ih =>
    by_cases hw : wanted name
    · rw [List.filterMap_cons_some (hsome name hw), ih, List.filter_cons_of_pos (by simpa using hw),
        List.map_cons]
    · rw [List.filterMap_cons_none (hnone name hw), ih, List.filter_cons_of_neg (by simpa using hw)]

/-- What is told of a table, where each group tells one message or none. -/
theorem exists_reported {groups : List Owners} {claims : List String}
    {owners : String → List String} {collision : Owners → Option String}
    {message : String → List String → String}
    (hnames : Reported claims (fun _ => True) (groups.map (·.1)))
    (howners : ∀ name, ownersIn groups name = owners name)
    (hsome : ∀ name, wanted name →
      collision (name, owners name) = some (message name (owners name)))
    (hnone : ∀ name, ¬wanted name → collision (name, owners name) = none) :
    ∃ names, Reported claims wanted names ∧
      groups.filterMap collision = names.map fun name => message name (owners name) := by
  refine ⟨_, hnames.filter, ?_⟩
  calc groups.filterMap collision
      = ((groups.map (·.1)).map fun name => (name, owners name)).filterMap collision :=
        congrArg _ (groups_eq hnames.nodup howners)
    _ = (groups.map (·.1)).filterMap fun name => collision (name, owners name) :=
        List.filterMap_map
    _ = ((groups.map (·.1)).filter wanted).map fun name => message name (owners name) :=
        filterMap_told hsome hnone _

end Telling

/-- Two entities bear the name, or one bears it twice. -/
def Contested (bs : List Bearing) (name : String) : Prop := 2 ≤ (claimed bs).count name

instance (bs : List Bearing) : DecidablePred (Contested bs) :=
  fun _ => inferInstanceAs (Decidable (_ ≤ _))

/-- The query that is there in every document. -/
def builtInQuery : Bearing := ("nodes", "the built-in 'nodes' query")

/-- The types that are there in every document, and the scalars of the grammar. -/
def builtInTypes : List String := [
  "Datetime", "Email", "Url", "Password", "GeoPointInput", "GeoPoint",
  "Node", "Edge", "Connection", "PageInfo", "Query", "Mutation",
  "String", "Int", "Float", "Boolean", "ID"]

/-- A fixed name is told with the first that claims it, any other with all that do. -/
def typeMessage (name : String) (owners : List String) : String :=
  if name ∈ builtInTypes then
    "type '" ++ name ++ "' from " ++ owners.headD "" ++ " shadows a built-in type"
  else "type '" ++ name ++ "' is generated by " ++ " and ".intercalate owners

def queryMessage (name : String) (owners : List String) : String :=
  "query field '" ++ name ++ "' is generated by " ++ " and ".intercalate owners

def fieldMessage (n : Node) (name : String) (owners : List String) : String :=
  "field '" ++ name ++ "' of type '" ++ n.typeName ++ "' is declared by " ++
    " and ".intercalate owners

section Messages
variable {bs : List Bearing} {name : String}

theorem contested_iff : Contested bs name ↔ 1 < (ownersOf bs name).length := by
  rw [length_ownersOf]
  rfl

theorem reservedNames_eq : reservedNames = builtInTypes := rfl

theorem typeCollision_of_wanted (h : name ∈ builtInTypes ∨ Contested bs name) :
    typeCollision (name, ownersOf bs name) = some (typeMessage name (ownersOf bs name)) := by
  unfold typeCollision typeMessage
  rw [reservedNames_eq]
  by_cases hfixed : name ∈ builtInTypes
  · simp [hfixed]
  · simp [hfixed, contested_iff.mp (h.resolve_left hfixed), listed]

theorem typeCollision_of_unwanted (h : ¬(name ∈ builtInTypes ∨ Contested bs name)) :
    typeCollision (name, ownersOf bs name) = none := by
  rw [not_or, contested_iff, Nat.not_lt] at h
  exact typeCollision_eq_none.mpr h

theorem queryCollision_of_contested (h : Contested bs name) :
    queryCollision (name, ownersOf bs name) = some (queryMessage name (ownersOf bs name)) :=
  if_pos (contested_iff.mp h)

theorem fieldCollision_of_contested (n : Node) (h : Contested bs name) :
    fieldCollision n (name, ownersOf bs name) = some (fieldMessage n name (ownersOf bs name)) :=
  if_pos (contested_iff.mp h)

theorem length_ownersOf_le (h : ¬Contested bs name) : (ownersOf bs name).length ≤ 1 :=
  Nat.not_lt.mp fun hlt => h (contested_iff.mpr hlt)

end Messages

section Reports
variable (nodes : List Node) (links : List Link)

theorem exists_reported_types :
    ∃ names, Reported (claimed (typeBearings nodes links))
        (fun name => name ∈ builtInTypes ∨ Contested (typeBearings nodes links) name) names ∧
      (grouped (typeBearings nodes links)).filterMap typeCollision =
        names.map fun name => typeMessage name (ownersOf (typeBearings nodes links) name) :=
  exists_reported (reported_grouped _) (ownersIn_grouped _) (fun _ => typeCollision_of_wanted)
    fun _ => typeCollision_of_unwanted

/-- The built-in query is named first wherever it is named, and is the last to claim its name. -/
theorem exists_reported_queries :
    ∃ names, Reported (claimed (queryBearings nodes ++ [builtInQuery]))
        (Contested (builtInQuery :: queryBearings nodes)) names ∧
      (withBuiltIn (grouped (queryBearings nodes))).filterMap queryCollision =
        names.map fun name =>
          queryMessage name (ownersOf (builtInQuery :: queryBearings nodes) name) := by
  have hnames : Reported (claimed (queryBearings nodes ++ [builtInQuery])) (fun _ => True)
      ((withBuiltIn (grouped (queryBearings nodes))).map (·.1)) := by
    have hplace := names_withBuiltIn (grouped (queryBearings nodes)) builtInQuery.2
    rw [hplace, ← grouped_concat]
    exact reported_grouped _
  have howners (name : String) : ownersIn (withBuiltIn (grouped (queryBearings nodes))) name =
      ownersOf (builtInQuery :: queryBearings nodes) name := by
    rw [ownersIn_withBuiltIn, ownersIn_grouped, ownersOf_cons]
    rfl
  exact exists_reported hnames howners (fun _ => queryCollision_of_contested) fun _ h =>
    queryCollision_eq_none.mpr (length_ownersOf_le h)

theorem exists_reported_fields (n : Node) (outgoing : List Link) :
    ∃ names, Reported (claimed (fieldBearings n outgoing))
        (Contested (fieldBearings n outgoing)) names ∧
      (grouped (fieldBearings n outgoing)).filterMap (fieldCollision n) =
        names.map fun name => fieldMessage n name (ownersOf (fieldBearings n outgoing) name) :=
  exists_reported (reported_grouped _) (ownersIn_grouped _) (fun _ => fieldCollision_of_contested n)
    fun _ h => fieldCollision_eq_none.mpr (length_ownersOf_le h)

/-- Types come first, then queries, then the fields of each node. A node claims its type and its
input, an edge its type and its connection; a field of a node is claimed by a property or an edge. -/
theorem namingCollisions_exact (outgoing : Outgoing) :
    let node (n : Node) := "node '" ++ n.label ++ "' (" ++ n.id ++ ")"
    let edge (l : Link) := "edge '" ++ l.edge.label ++ "' (" ++ l.edge.id ++ ") from '" ++
      l.start.label ++ "' to '" ++ l.finish.label ++ "'"
    let typeClaims : List Bearing :=
      nodes.flatMap (fun n => [(n.typeName, node n), (n.inputName, node n)]) ++
        links.flatMap fun l => [(l.edgeName, edge l), (l.connectionName, edge l)]
    let queryClaims : List Bearing := nodes.map fun n => (n.queryName, node n)
    let fieldClaims (n : Node) : List Bearing :=
      n.properties.map (fun p => (p.key, "property '" ++ p.key ++ "'")) ++
        ((outgoing.lookup n.id).getD []).map fun l => (l.edge.label, edge l)
    ∃ (types queries : List String) (fields : Node → List String),
      Reported (claimed typeClaims)
        (fun name => name ∈ builtInTypes ∨ Contested typeClaims name) types ∧
      Reported (claimed (queryClaims ++ [builtInQuery]))
        (Contested (builtInQuery :: queryClaims)) queries ∧
      (∀ n, Reported (claimed (fieldClaims n)) (Contested (fieldClaims n)) (fields n)) ∧
      namingCollisions nodes links outgoing =
        (types.map fun name => typeMessage name (ownersOf typeClaims name)) ++
        (queries.map fun name =>
          queryMessage name (ownersOf (builtInQuery :: queryClaims) name)) ++
        nodes.flatMap fun n => (fields n).map fun name =>
          fieldMessage n name (ownersOf (fieldClaims n) name) := by
  intro node edge typeClaims queryClaims fieldClaims
  -- The sequences are those that the program collects.
  have htypeClaims : typeBearings nodes links = typeClaims := rfl
  have hqueryClaims : queryBearings nodes = queryClaims := rfl
  have hfieldClaims (n : Node) : fieldBearings n (outgoing.of n) = fieldClaims n := rfl
  obtain ⟨types, htypes, hteq⟩ := exists_reported_types nodes links
  obtain ⟨queries, hqueries, hqeq⟩ := exists_reported_queries nodes
  choose fields hfields hfeq using fun n => exists_reported_fields n (outgoing.of n)
  refine ⟨types, queries, fields, htypes, hqueries, hfields, ?_⟩
  rw [← htypeClaims, ← hqueryClaims]
  simp only [← hfieldClaims, namingCollisions, hteq, hqeq, hfeq]

/-- A label may clash with a fixed type and with the built-in query at once. -/
example : namingCollisions [{ id := "e", label := "edge" }, { id := "n", label := "node" }] [] [] =
    ["type 'Edge' from node 'edge' (e) shadows a built-in type",
      "type 'Node' from node 'node' (n) shadows a built-in type",
      "query field 'nodes' is generated by the built-in 'nodes' query and node 'node' (n)"] := by
  decide +kernel

end Reports
end GraphSchema
