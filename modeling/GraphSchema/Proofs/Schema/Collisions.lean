import GraphSchema.Schema.Diagnostics
import Mathlib.Data.List.Nodup

/-! An empty report: every name then has one owner, and none is taken by a fixed declaration. -/
namespace GraphSchema

/-- The owners that a table of groups gives for a name. -/
def ownersIn (groups : List Owners) (name : String) : List String :=
  (groups.lookup name).getD []

/-- All owners of a name among bearings, in order. -/
def ownersOf (bs : List Bearing) (name : String) : List String :=
  (bs.filter fun b => b.1 = name).map (·.2)

section Grouping
variable {groups gs : List Owners} {bs : List Bearing} {name : String}

@[simp] theorem ownersIn_nil (name : String) : ownersIn [] name = [] := rfl

@[simp] theorem ownersIn_cons (g : Owners) (gs : List Owners) (name : String) :
    ownersIn (g :: gs) name = if name = g.1 then g.2 else ownersIn gs name := by
  unfold ownersIn
  rw [List.lookup_cons]
  by_cases h : name = g.1
  · simp [h]
  · simp [h, beq_false_of_ne h]

theorem ownersIn_addBearing (groups : List Owners) (b : Bearing) (name : String) :
    ownersIn (addBearing groups b) name =
      ownersIn groups name ++ if name = b.1 then [b.2] else [] := by
  induction groups with
  | nil => simp [addBearing]
  | cons g gs ih =>
    unfold addBearing
    split
    next h =>
      rw [ownersIn_cons, ownersIn_cons, ← h]
      by_cases hname : name = g.1
      · simp [hname]
      · simp [hname]
    next h =>
      rw [ownersIn_cons, ownersIn_cons, ih]
      by_cases hname : name = g.1
      · simp [hname, h]
      · simp [hname]

theorem ownersOf_cons (b : Bearing) (bs : List Bearing) (name : String) :
    ownersOf (b :: bs) name = (if name = b.1 then [b.2] else []) ++ ownersOf bs name := by
  unfold ownersOf
  by_cases h : b.1 = name
  · simp [h]
  · have hne : ¬name = b.1 := fun heq => h heq.symm
    simp [h, hne]

@[simp] theorem ownersIn_grouped (bs : List Bearing) (name : String) :
    ownersIn (grouped bs) name = ownersOf bs name := by
  have hfold (bs : List Bearing) (groups : List Owners) :
      ownersIn (bs.foldl addBearing groups) name = ownersIn groups name ++ ownersOf bs name := by
    induction bs generalizing groups with
    | nil => exact (List.append_nil _).symm
    | cons b bs ih =>
      rw [List.foldl_cons, ih, ownersIn_addBearing, ownersOf_cons, List.append_assoc]
  exact hfold bs []

/-- The query that is always there counts as one more bearing. -/
theorem ownersIn_withBuiltIn (groups : List Owners) (name : String) :
    ownersIn (withBuiltIn groups) name =
      (if name = "nodes" then ["the built-in 'nodes' query"] else []) ++ ownersIn groups name := by
  induction groups with
  | nil => simp [withBuiltIn]
  | cons g gs ih =>
    unfold withBuiltIn
    split
    next h =>
      rw [ownersIn_cons, ownersIn_cons, ← h]
      by_cases hname : name = g.1
      · simp [hname]
      · simp [hname]
    next h =>
      rw [ownersIn_cons, ownersIn_cons, ih]
      by_cases hname : name = g.1
      · simp [hname, h]
      · simp [hname]

theorem mem_of_ownersIn (h : ownersIn groups name ≠ []) :
    (name, ownersIn groups name) ∈ groups := by
  unfold ownersIn at h ⊢
  cases hl : groups.lookup name with
  | none => simp [hl] at h
  | some owners =>
    obtain ⟨before, after, rfl, -⟩ := List.lookup_eq_some_iff.mp hl
    simp

theorem length_ownersOf (bs : List Bearing) (name : String) :
    (ownersOf bs name).length = (bs.map (·.1)).count name := by
  rw [ownersOf, List.length_map, List.count, List.countP_map, List.countP_eq_length_filter]
  congr 1

/-- Groups of one owner each: no name is borne twice. -/
theorem nodup_of_single (hown : ∀ name, ownersIn groups name = ownersOf bs name)
    (hsingle : ∀ g ∈ groups, g.2.length ≤ 1) : (bs.map (·.1)).Nodup := by
  rw [List.nodup_iff_count_le_one]
  intro name
  rw [← length_ownersOf, ← hown]
  by_cases h : ownersIn groups name = []
  · simp [h]
  · exact hsingle _ (mem_of_ownersIn h)

end Grouping

section Reports
variable {nodes : List Node} {links : List Link} {outgoing : Outgoing}

theorem typeCollision_eq_none {g : Owners} :
    typeCollision g = none ↔ g.1 ∉ reservedNames ∧ g.2.length ≤ 1 := by
  unfold typeCollision
  split
  next h => simp_all
  next h => split <;> simp_all

theorem queryCollision_eq_none {g : Owners} : queryCollision g = none ↔ g.2.length ≤ 1 := by
  unfold queryCollision
  split <;> simp_all

theorem fieldCollision_eq_none {n : Node} {g : Owners} :
    fieldCollision n g = none ↔ g.2.length ≤ 1 := by
  unfold fieldCollision
  split <;> simp_all

theorem namingCollisions_eq_nil :
    namingCollisions nodes links outgoing = [] ↔
      (∀ g ∈ grouped (typeBearings nodes links), typeCollision g = none) ∧
        (∀ g ∈ withBuiltIn (grouped (queryBearings nodes)), queryCollision g = none) ∧
          ∀ n ∈ nodes, ∀ g ∈ grouped (fieldBearings n (outgoing.of n)),
            fieldCollision n g = none := by
  simp only [namingCollisions, List.append_eq_nil_iff, List.filterMap_eq_nil_iff,
    List.flatMap_eq_nil_iff, and_assoc]

section Clean
variable (h : namingCollisions nodes links outgoing = [])
include h

theorem nodup_typeBearings : ((typeBearings nodes links).map (·.1)).Nodup :=
  nodup_of_single (ownersIn_grouped _) fun g hg =>
    (typeCollision_eq_none.mp ((namingCollisions_eq_nil.mp h).1 g hg)).2

theorem not_reserved {name : String} (hname : name ∈ (typeBearings nodes links).map (·.1)) :
    name ∉ reservedNames := by
  have howned : ownersIn (grouped (typeBearings nodes links)) name ≠ [] := by
    rw [ownersIn_grouped, ← List.length_pos_iff, length_ownersOf]
    exact List.count_pos_iff.mpr hname
  exact (typeCollision_eq_none.mp
    ((namingCollisions_eq_nil.mp h).1 _ (mem_of_ownersIn howned))).1

theorem nodup_queryBearings : ("nodes" :: (queryBearings nodes).map (·.1)).Nodup := by
  have hown (name : String) : ownersIn (withBuiltIn (grouped (queryBearings nodes))) name =
      ownersOf (("nodes", "the built-in 'nodes' query") :: queryBearings nodes) name := by
    rw [ownersIn_withBuiltIn, ownersIn_grouped, ownersOf_cons]
  exact nodup_of_single hown fun g hg =>
    queryCollision_eq_none.mp ((namingCollisions_eq_nil.mp h).2.1 g hg)

theorem nodup_fieldBearings {n : Node} (hn : n ∈ nodes) :
    ((fieldBearings n (outgoing.of n)).map (·.1)).Nodup :=
  nodup_of_single (ownersIn_grouped _) fun g hg =>
    fieldCollision_eq_none.mp ((namingCollisions_eq_nil.mp h).2.2 n hn g hg)

end Clean
end Reports
end GraphSchema
