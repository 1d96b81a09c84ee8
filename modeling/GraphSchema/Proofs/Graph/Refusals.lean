import GraphSchema.Proofs.Graph.Faults
import GraphSchema.Proofs.Graph.Validity

/-! When an edit is refused, and by what. The registries are asked first: an id is taken, or an
entity is named that is not there. Only then the new label or the new properties are checked. An
integer with too many digits is neither put into a message nor made a label; it breaks the edit off.
-/
namespace GraphSchema
open Text

section NumberTexts

theorem exists_solid_int (n : Int) : ∃ c ∈ (toString n).toList, isBlank c = false := by
  have hnat (k : Nat) : ∃ c ∈ k.repr.toList, isBlank c = false := by
    rw [Nat.repr_eq_ofList_toDigits, String.toList_ofList]
    obtain ⟨c, hc⟩ := List.exists_mem_of_ne_nil _ (Nat.toDigits_ne_nil (n := k) (b := 10))
    exact ⟨c, hc, not_blank_of_isDigit (Nat.isDigit_of_mem_toDigits (by decide) (by decide) hc)⟩
  rw [Int.toString_eq_repr, Int.repr_eq_if]
  split
  next => exact hnat _
  next =>
    obtain ⟨c, hc, hsolid⟩ := hnat (-n).toNat
    rw [String.toList_append]
    exact ⟨c, List.mem_append_right _ hc, hsolid⟩

/-- However a floating point number is laid out, a zero, a point or the mark of the power shows. -/
theorem Binary64.exists_solid_layOut (digits : List Char) (e : Int) :
    ∃ c ∈ layOut digits e, isBlank c = false := by
  unfold layOut
  split
  next =>
    dsimp only
    split
    next => exact ⟨'0', by simp, by decide⟩
    next =>
      split
      next => exact ⟨'0', by simp, by decide⟩
      next => exact ⟨'.', by simp, by decide⟩
  next => exact ⟨'e', by simp, by decide⟩

theorem Binary64.exists_solid (x : Binary64) : ∃ c ∈ x.text, isBlank c = false := by
  cases x with
  | nan => exact ⟨'n', by decide, by decide⟩
  | infinite negative => cases negative <;> exact ⟨'n', by decide, by decide⟩
  | finite negative m e =>
    unfold text
    dsimp only
    split
    next => exact ⟨'0', List.mem_append_right _ (by decide), by decide⟩
    next =>
      obtain ⟨c, hc, hsolid⟩ := exists_solid_layOut (shortestDigits m e).1 (shortestDigits m e).2
      exact ⟨c, List.mem_append_right _ hc, hsolid⟩

end NumberTexts

/-- A value that cannot be a label: neither a text nor a number, or a text of blanks only. -/
def Value.Unlabelled : Value → Prop
  | .text s => ∀ c ∈ s.toList, isBlank c = true
  | .int _ | .float _ => False
  | _ => True

/-- An integer with too many digits to be a label. -/
def Value.Overlong : Value → Prop
  | .int n => Value.isLong n = true
  | _ => False

theorem Value.short_iff {v : Value} : v.Short ↔ ¬v.Overlong := by
  cases v with
  | int n => simp [Short, Overlong]
  | _ => exact iff_of_true (fun _ hn => by simp at hn) id

theorem Value.Overlong.not_unlabelled {v : Value} (h : v.Overlong) : ¬v.Unlabelled := by
  cases v with
  | int n => exact id
  | _ => exact h.elim

theorem Check.label_overlong {model : Model} {v : Value} (h : v.Overlong) :
    Check.label model v = .error [⟨[], .overlong⟩] := by
  cases v with
  | int n =>
    have hlong : Value.isLong n = true := h
    rw [Check.label, Check.textOrNumber, if_pos hlong]
    rfl
  | _ => exact h.elim

theorem Check.exists_label_iff {model : Model} {v : Value} :
    (∃ l, Check.label model v = .ok l) ↔ ¬v.Unlabelled ∧ ¬v.Overlong := by
  have htrim {s : String} (hv : Check.textOrNumber v = .ok s) :
      (∃ l, Check.label model v = .ok l) ↔ trim isBlank s.toList ≠ [] := by
    unfold Check.label
    rw [hv]
    dsimp only
    split
    next h => simp [Checked.fault, h]
    next h => exact iff_of_true ⟨_, rfl⟩ h
  have hnumber {cs : List Char} (hv : Check.textOrNumber v = .ok (String.ofList cs))
      (h : ∃ c ∈ cs, isBlank c = false) : ∃ l, Check.label model v = .ok l := by
    obtain ⟨c, hc, -⟩ := exists_head?_trim h
    rw [htrim hv, String.toList_ofList]
    intro hnil
    simp [hnil] at hc
  cases v with
  | text s =>
    rw [htrim rfl, Value.Unlabelled, ne_eq, trim_eq_nil_iff]
    exact (and_iff_left id).symm
  | int n =>
    by_cases hlong : (Value.int n).Overlong
    · refine iff_of_false ?_ fun h => h.2 hlong
      simp [label_overlong hlong]
    · have hshort : Value.isLong n = false := Value.short_iff.mpr hlong n rfl
      refine iff_of_true (hnumber ?_ (exists_solid_int n)) ⟨id, hlong⟩
      rw [Check.textOrNumber, hshort, if_neg Bool.false_ne_true, Value.toText, Value.literal]
      simp
  | float x =>
    refine iff_of_true (hnumber ?_ x.exists_solid) ⟨id, id⟩
    rw [Check.textOrNumber, Value.toText, Value.literal]
    simp
  | _ =>
    refine iff_of_false ?_ fun h => h.1 trivial
    simp [Check.label, Check.textOrNumber, Checked.fault]

/-- What is wrong with a value that cannot be a label. -/
theorem Check.exists_label_fault {model : Model} {v : Value} (h : v.Unlabelled ∨ v.Overlong) :
    ∃ fs, Check.label model v = .error fs ∧ (Fault.breaksOff fs = true ↔ v.Overlong) := by
  by_cases hlong : v.Overlong
  · exact ⟨_, label_overlong hlong, iff_of_true rfl hlong⟩
  · cases hl : Check.label model v with
    | ok l => exact absurd (exists_label_iff.mp ⟨l, hl⟩) fun hpass => hpass.1 (h.resolve_right hlong)
    | error fs =>
      have hreports := reports_label (Value.short_iff.mpr hlong) fs hl
      exact ⟨fs, rfl, iff_of_false (by simp [hreports]) hlong⟩

/-- A property that exists, or an object that passes as one. -/
def Draft.Fit : Draft → Prop
  | .property _ => True
  | .value v => ∃ fields p, v = .object fields ∧ Property.check v = .ok p

/-- A list, and every item of it fits. -/
def Drafts.Fit : Drafts → Prop
  | .drafts ds => ∀ d ∈ ds, d.Fit
  | .value v => ∃ vs, v = .list vs ∧ ∀ w ∈ vs, (Draft.value w).Fit

theorem Checked.exists_each_iff {α β : Type} {check : α → Checked β} {start : Nat} {as : List α} :
    (∃ bs, Checked.each check start as = .ok bs) ↔ ∀ a ∈ as, ∃ b, check a = .ok b := by
  simp only [Checked.each_eq_ok]
  induction as with
  | nil => simp
  | cons a as ih =>
    rw [List.forall_mem_cons, ← ih]
    constructor
    · rintro ⟨_, h⟩
      obtain ⟨b, bs, ha, hrest, -⟩ := List.forall₂_cons_left_iff.mp h
      exact ⟨⟨b, ha⟩, bs, hrest⟩
    · rintro ⟨⟨b, ha⟩, bs, hrest⟩
      exact ⟨b :: bs, .cons ha hrest⟩

theorem Draft.exists_check_iff {d : Draft} : (∃ p, d.check = .ok p) ↔ d.Fit := by
  cases d with
  | property p => exact iff_of_true ⟨p, rfl⟩ trivial
  | value v =>
    constructor
    · rintro ⟨p, hp⟩
      cases v with
      | object fields => exact ⟨fields, p, rfl, hp⟩
      | _ => simp [check, Property.check, Checked.fault] at hp
    · rintro ⟨_, p, -, hp⟩
      exact ⟨p, hp⟩

theorem Drafts.exists_check_iff {ds : Drafts} : (∃ ps, ds.check = .ok ps) ↔ ds.Fit := by
  cases ds with
  | drafts ds =>
    rw [check, Checked.exists_each_iff]
    exact forall₂_congr fun d _ => Draft.exists_check_iff
  | value v =>
    cases v with
    | list vs =>
      rw [check, Checked.exists_each_iff]
      constructor
      · intro h
        exact ⟨vs, rfl, fun w hw => Draft.exists_check_iff.mp (h w hw)⟩
      · rintro ⟨_, ⟨rfl⟩, h⟩ w hw
        exact Draft.exists_check_iff.mpr (h w hw)
    | _ =>
      refine iff_of_false ?_ ?_
      · simp [check, Checked.fault]
      · rintro ⟨vs, hvs, -⟩
        simp at hvs

theorem Drafts.exists_fault {ds : Drafts} (h : ¬ds.Fit) :
    ∃ fs, ds.check = .error fs ∧ Fault.breaksOff fs = false := by
  cases hc : ds.check with
  | ok ps => exact absurd (exists_check_iff.mp ⟨ps, hc⟩) h
  | error fs => exact ⟨fs, rfl, ds.reports_check fs hc⟩

namespace Edit

/-- The node that an edit changes or removes. -/
def node? : Edit → Option Value
  | .removeNode id | .setNodeLabel id _ | .setNodeProperties id _ => some id
  | _ => none

/-- The edge that an edit changes or removes. -/
def edge? : Edit → Option Value
  | .removeEdge id | .setEdgeLabel id _ | .setEdgeProperties id _ => some id
  | _ => none

/-- The new label or the new properties do not pass. -/
def Unfit : Edit → Prop
  | .setNodeLabel _ v | .setEdgeLabel _ v => v.Unlabelled
  | .setNodeProperties _ ds | .setEdgeProperties _ ds => ¬ds.Fit
  | _ => False

/-- The new label is an integer with too many digits. -/
def Overlong : Edit → Prop
  | .setNodeLabel _ v | .setEdgeLabel _ v => v.Overlong
  | _ => False

theorem Overlong.not_unfit {x : Edit} (h : x.Overlong) : ¬x.Unfit := by
  cases x with
  | setNodeLabel id v => exact Value.Overlong.not_unlabelled h
  | setEdgeLabel id v => exact Value.Overlong.not_unlabelled h
  | _ => exact h.elim

end Edit

/-- The errors by which a registry refuses; the others come of checks, or of an integer that cannot be
written. -/
def StoreError.OfRegistry : StoreError → Prop
  | .nodeExists _ | .edgeExists _ | .noNode _ | .noEdge _ | .unhashable _ => True
  | .refused _ | .computed .. | .overlong => False

/-- What fails where an entity is asked for by an id that is no text: a list and an object cannot be
looked up, and all others are not found, which is told if they can be written. -/
inductive Nameless (missing : String → StoreError) : Value → StoreError → Prop where
  | list {items : List Value} : Nameless missing (.list items) (.unhashable "list")
  | object {fields : List (String × Value)} :
    Nameless missing (.object fields) (.unhashable "dict")
  | overlong {n : Int} (long : Value.isLong n = true) : Nameless missing (.int n) .overlong
  | int {n : Int} (short : Value.isLong n = false) :
    Nameless missing (.int n) (missing (Value.int n).toText)
  | float {x : Binary64} : Nameless missing (.float x) (missing (Value.float x).toText)
  | bool {b : Bool} : Nameless missing (.bool b) (missing (Value.bool b).toText)
  | null : Nameless missing .null (missing Value.null.toText)

/-- What the registries have against an edit: an id is taken, or an entity is named that is not
there. The nodes of a new edge are asked for one after the other, and its own id last. -/
inductive Objection (s : Store) : Edit → StoreError → Prop where
  | nodeTaken {n : Node} (taken : n.id ∈ s.nodes.keys) :
    Objection s (.addNode n) (.nodeExists n.id)
  | startMissing {e : Edge} (start : e.startId ∉ s.nodes.keys) :
    Objection s (.addEdge e) (.noNode e.startId)
  | finishMissing {e : Edge} (start : e.startId ∈ s.nodes.keys) (finish : e.endId ∉ s.nodes.keys) :
    Objection s (.addEdge e) (.noNode e.endId)
  | edgeTaken {e : Edge} (start : e.startId ∈ s.nodes.keys) (finish : e.endId ∈ s.nodes.keys)
      (taken : e.id ∈ s.edges.keys) : Objection s (.addEdge e) (.edgeExists e.id)
  | nodeUnknown {x : Edit} {id : String} (named : x.node? = some (.text id))
      (unknown : id ∉ s.nodes.keys) : Objection s x (.noNode id)
  | edgeUnknown {x : Edit} {id : String} (named : x.edge? = some (.text id))
      (unknown : id ∉ s.edges.keys) : Objection s x (.noEdge id)
  | nodeNameless {x : Edit} {id : Value} {e : StoreError} (named : x.node? = some id)
      (nameless : Nameless .noNode id e) : Objection s x e
  | edgeNameless {x : Edit} {id : Value} {e : StoreError} (named : x.edge? = some id)
      (nameless : Nameless .noEdge id e) : Objection s x e

theorem Nameless.ofRegistry_or {missing : String → StoreError} {id : Value} {e : StoreError}
    (h : Nameless missing id e) (hmissing : ∀ i, (missing i).OfRegistry) :
    e.OfRegistry ∨ e = .overlong := by
  cases h with
  | overlong => exact .inr rfl
  | list => exact .inl trivial
  | object => exact .inl trivial
  | _ => exact .inl (hmissing _)

theorem Objection.ofRegistry_or {s : Store} {x : Edit} {e : StoreError} (h : Objection s x e) :
    e.OfRegistry ∨ e = .overlong := by
  cases h with
  | nodeNameless _ nameless => exact nameless.ofRegistry_or fun _ => trivial
  | edgeNameless _ nameless => exact nameless.ofRegistry_or fun _ => trivial
  | _ => exact .inl trivial

namespace Store
variable {s : Store} {id : Value} {e : StoreError}

theorem requireNode_eq_error {i : String} :
    s.requireNode i = .error e ↔ i ∉ s.nodes.keys ∧ e = .noNode i := by
  rw [← Registry.has_iff]
  unfold requireNode getNode? Registry.has
  cases s.nodes.get? i <;> simp [eq_comm]

theorem requireEdge_eq_error {i : String} :
    s.requireEdge i = .error e ↔ i ∉ s.edges.keys ∧ e = .noEdge i := by
  rw [← Registry.has_iff]
  unfold requireEdge getEdge? Registry.has
  cases s.edges.get? i <;> simp [eq_comm]

theorem changeNode_of_missing {i : String} {change : Node → Checked Node}
    (h : s.requireNode i = .error e) : s.changeNode i change = .error e := by
  rw [changeNode, h]

theorem changeEdge_of_missing {i : String} {change : Edge → Checked Edge}
    (h : s.requireEdge i = .error e) : s.changeEdge i change = .error e := by
  rw [changeEdge, h]

/-- The faults of what is set are the faults of the change, with the field that they are found in. -/
theorem changeNode_of_fault {α : Type} {i : String} {n : Node} {step : GraphSchema.Step}
    {c : Checked α} {put : α → Node} {fs : List Fault} (change : Node → Checked Node)
    (hn : s.getNode? i = some n) (hchange : change n = Checked.within step (c.map put))
    (hc : c = .error fs) : ∃ gs, s.changeNode i change = .error (.ofFaults .node gs) ∧
      Fault.breaksOff gs = Fault.breaksOff fs := by
  rw [hc] at hchange
  refine ⟨_, ?_, Checked.breaksOff_within step⟩
  rw [changeNode, requireNode_eq_ok.mpr hn]
  simp only [hchange]
  rfl

theorem changeEdge_of_fault {α : Type} {i : String} {f : Edge} {step : GraphSchema.Step}
    {c : Checked α} {put : α → Edge} {fs : List Fault} (change : Edge → Checked Edge)
    (hf : s.getEdge? i = some f) (hchange : change f = Checked.within step (c.map put))
    (hc : c = .error fs) : ∃ gs, s.changeEdge i change = .error (.ofFaults .edge gs) ∧
      Fault.breaksOff gs = Fault.breaksOff fs := by
  rw [hc] at hchange
  refine ⟨_, ?_, Checked.breaksOff_within step⟩
  rw [changeEdge, requireEdge_eq_ok.mpr hf]
  simp only [hchange]
  rfl

/-- A value that is no text names nothing, whatever is done with what it would name. -/
theorem named_of_nameless {α : Type} {missing : String → StoreError}
    {f : String → Except StoreError α} (h : Nameless missing id e) :
    named id missing f = .error e := by
  cases h with
  | overlong long => rw [named, if_pos long]
  | int short => rw [named, short, if_neg Bool.false_ne_true]
  | _ => rfl

/-- Every value is a text or names nothing. -/
theorem text_or_nameless (missing : String → StoreError) (id : Value) :
    (∃ i, id = .text i) ∨ ∃ e, Nameless missing id e := by
  cases id with
  | text i => exact .inl ⟨i, rfl⟩
  | int n =>
    refine .inr ?_
    cases hlong : Value.isLong n with
    | true => exact ⟨_, .overlong hlong⟩
    | false => exact ⟨_, .int hlong⟩
  | null => exact .inr ⟨_, .null⟩
  | bool b => exact .inr ⟨_, .bool⟩
  | float x => exact .inr ⟨_, .float⟩
  | list items => exact .inr ⟨_, .list⟩
  | object fields => exact .inr ⟨_, .object⟩

end Store

section Refusing
open Store
variable {s t : Store} {x : Edit} {e : StoreError} {id : Value}

/-- An edit that names a node asks for it before all else. -/
theorem exists_named_node (names : x.node? = some id) : ∃ f : String → Except StoreError Store,
    s.perform x = named id .noNode f ∧ ∀ i e, s.requireNode i = .error e → f i = .error e := by
  cases x with
  | removeNode _ =>
    obtain rfl := Option.some.inj names
    exact ⟨s.removeNode, rfl, fun i e h => by rw [removeNode, h]⟩
  | setNodeLabel _ v =>
    obtain rfl := Option.some.inj names
    exact ⟨_, rfl, fun _ _ => changeNode_of_missing⟩
  | setNodeProperties _ ds =>
    obtain rfl := Option.some.inj names
    exact ⟨_, rfl, fun _ _ => changeNode_of_missing⟩
  | _ => simp [Edit.node?] at names

theorem exists_named_edge (names : x.edge? = some id) : ∃ f : String → Except StoreError Store,
    s.perform x = named id .noEdge f ∧ ∀ i e, s.requireEdge i = .error e → f i = .error e := by
  cases x with
  | removeEdge _ =>
    obtain rfl := Option.some.inj names
    exact ⟨s.removeEdge, rfl, fun i e h => by rw [removeEdge, h]⟩
  | setEdgeLabel _ v =>
    obtain rfl := Option.some.inj names
    exact ⟨_, rfl, fun _ _ => changeEdge_of_missing⟩
  | setEdgeProperties _ ds =>
    obtain rfl := Option.some.inj names
    exact ⟨_, rfl, fun _ _ => changeEdge_of_missing⟩
  | _ => simp [Edit.edge?] at names

theorem Objection.perform (h : Objection s x e) : s.perform x = .error e := by
  cases h with
  | nodeTaken taken =>
    show s.addNode _ = _
    rw [addNode, if_pos (Registry.has_iff.mpr taken)]
  | startMissing start =>
    show s.addEdge _ = _
    rw [addEdge, requireNode_eq_error.mpr ⟨start, rfl⟩]
  | finishMissing start finish =>
    obtain ⟨n, hn⟩ := has_node_iff.mp (Registry.has_iff.mpr start)
    show s.addEdge _ = _
    rw [addEdge, hn, requireNode_eq_error.mpr ⟨finish, rfl⟩]
  | edgeTaken start finish taken =>
    obtain ⟨n, hn⟩ := has_node_iff.mp (Registry.has_iff.mpr start)
    obtain ⟨m, hm⟩ := has_node_iff.mp (Registry.has_iff.mpr finish)
    show s.addEdge _ = _
    rw [addEdge, hn, hm]
    exact if_pos (Registry.has_iff.mpr taken)
  | nodeUnknown names unknown =>
    obtain ⟨f, hperform, hf⟩ := exists_named_node (s := s) names
    rw [hperform]
    exact hf _ _ (requireNode_eq_error.mpr ⟨unknown, rfl⟩)
  | edgeUnknown names unknown =>
    obtain ⟨f, hperform, hf⟩ := exists_named_edge (s := s) names
    rw [hperform]
    exact hf _ _ (requireEdge_eq_error.mpr ⟨unknown, rfl⟩)
  | nodeNameless names nameless =>
    obtain ⟨f, hperform, -⟩ := exists_named_node (s := s) names
    rw [hperform]
    exact named_of_nameless nameless
  | edgeNameless names nameless =>
    obtain ⟨f, hperform, -⟩ := exists_named_edge (s := s) names
    rw [hperform]
    exact named_of_nameless nameless

/-- What is set by an edit that succeeds has passed its check. -/
theorem Effect.fit (h : Effect s x t) : ¬x.Unfit ∧ ¬x.Overlong := by
  cases h with
  | labelNode _ checked => exact Check.exists_label_iff.mp ⟨_, checked⟩
  | labelEdge _ checked => exact Check.exists_label_iff.mp ⟨_, checked⟩
  | fillNode _ checked => exact ⟨not_not_intro (Drafts.exists_check_iff.mp ⟨_, checked⟩), id⟩
  | fillEdge _ checked => exact ⟨not_not_intro (Drafts.exists_check_iff.mp ⟨_, checked⟩), id⟩
  | _ => exact ⟨id, id⟩

section Free
variable (hfree : ∀ e, ¬Objection s x e)
include hfree

/-- A node that is named is there, or its absence would be an objection. -/
theorem node_of_free (names : x.node? = some id) : ∃ i n, id = .text i ∧ s.getNode? i = some n := by
  rcases text_or_nameless .noNode id with ⟨i, rfl⟩ | ⟨e, nameless⟩
  · cases h : s.requireNode i with
    | error e =>
      exact absurd (.nodeUnknown names (requireNode_eq_error.mp h).1) (hfree _)
    | ok n => exact ⟨i, n, rfl, requireNode_eq_ok.mp h⟩
  · exact absurd (.nodeNameless names nameless) (hfree e)

theorem edge_of_free (names : x.edge? = some id) : ∃ i f, id = .text i ∧ s.getEdge? i = some f := by
  rcases text_or_nameless .noEdge id with ⟨i, rfl⟩ | ⟨e, nameless⟩
  · cases h : s.requireEdge i with
    | error e =>
      exact absurd (.edgeUnknown names (requireEdge_eq_error.mp h).1) (hfree _)
    | ok f => exact ⟨i, f, rfl, requireEdge_eq_ok.mp h⟩
  · exact absurd (.edgeNameless names nameless) (hfree e)

/-- Where nothing is objected and what is set passes, the edit succeeds. -/
theorem exists_effect (hfit : ¬x.Unfit) (hshort : ¬x.Overlong) : ∃ t, Effect s x t := by
  cases x with
  | addNode n =>
    have fresh : s.nodes.has n.id = false := by
      rw [Bool.eq_false_iff]
      intro taken
      exact hfree _ (.nodeTaken (Registry.has_iff.mp taken))
    exact ⟨_, .addNode fresh⟩
  | addEdge f =>
    have start : f.startId ∈ s.nodes.keys := by
      by_contra h
      exact hfree _ (.startMissing h)
    have finish : f.endId ∈ s.nodes.keys := by
      by_contra h
      exact hfree _ (.finishMissing start h)
    have fresh : s.edges.has f.id = false := by
      rw [Bool.eq_false_iff]
      intro taken
      exact hfree _ (.edgeTaken start finish (Registry.has_iff.mp taken))
    exact ⟨_, .addEdge (Registry.has_iff.mpr start) (Registry.has_iff.mpr finish) fresh⟩
  | removeNode id =>
    obtain ⟨i, n, rfl, hn⟩ := node_of_free hfree rfl
    exact ⟨_, .removeNode (Option.isSome_iff_exists.mpr ⟨n, hn⟩)⟩
  | removeEdge id =>
    obtain ⟨i, n, rfl, hn⟩ := edge_of_free hfree rfl
    exact ⟨_, .removeEdge (Option.isSome_iff_exists.mpr ⟨n, hn⟩)⟩
  | setNodeLabel id v =>
    obtain ⟨i, n, rfl, hn⟩ := node_of_free hfree rfl
    obtain ⟨l, hl⟩ := Check.exists_label_iff.mpr ⟨hfit, hshort⟩
    exact ⟨_, .labelNode hn hl⟩
  | setEdgeLabel id v =>
    obtain ⟨i, n, rfl, hn⟩ := edge_of_free hfree rfl
    obtain ⟨l, hl⟩ := Check.exists_label_iff.mpr ⟨hfit, hshort⟩
    exact ⟨_, .labelEdge hn hl⟩
  | setNodeProperties id ds =>
    obtain ⟨i, n, rfl, hn⟩ := node_of_free hfree rfl
    obtain ⟨ps, hps⟩ := Drafts.exists_check_iff.mpr (not_not.mp hfit)
    exact ⟨_, .fillNode hn hps⟩
  | setEdgeProperties id ds =>
    obtain ⟨i, n, rfl, hn⟩ := edge_of_free hfree rfl
    obtain ⟨ps, hps⟩ := Drafts.exists_check_iff.mpr (not_not.mp hfit)
    exact ⟨_, .fillEdge hn hps⟩
  | clear => exact ⟨_, .clear⟩

/-- Where nothing is objected and what is set does not pass, its faults are those of the edit. -/
theorem exists_fault (hfault : x.Unfit ∨ x.Overlong) :
    ∃ model fs, s.perform x = .error (.ofFaults model fs) ∧
      (Fault.breaksOff fs = true ↔ x.Overlong) := by
  cases x with
  | setNodeLabel id v =>
    obtain ⟨i, n, rfl, hn⟩ := node_of_free hfree rfl
    obtain ⟨fs, hfs, hlong⟩ := Check.exists_label_fault hfault
    obtain ⟨gs, hgs, hsame⟩ := changeNode_of_fault (fun n => n.assign "label" v) hn rfl hfs
    exact ⟨.node, gs, hgs, hsame ▸ hlong⟩
  | setEdgeLabel id v =>
    obtain ⟨i, f, rfl, hf⟩ := edge_of_free hfree rfl
    obtain ⟨fs, hfs, hlong⟩ := Check.exists_label_fault hfault
    obtain ⟨gs, hgs, hsame⟩ := changeEdge_of_fault (fun f => f.assign "label" v) hf rfl hfs
    exact ⟨.edge, gs, hgs, hsame ▸ hlong⟩
  | setNodeProperties id ds =>
    obtain ⟨i, n, rfl, hn⟩ := node_of_free hfree rfl
    obtain ⟨fs, hfs, hreports⟩ := Drafts.exists_fault (hfault.resolve_right False.elim)
    obtain ⟨gs, hgs, hsame⟩ := changeNode_of_fault (fun n => Checked.within (.field "properties")
      (ds.check.map fun ps => { n with properties := ps })) hn rfl hfs
    exact ⟨.node, gs, hgs, iff_of_false (by simp [hsame, hreports]) False.elim⟩
  | setEdgeProperties id ds =>
    obtain ⟨i, f, rfl, hf⟩ := edge_of_free hfree rfl
    obtain ⟨fs, hfs, hreports⟩ := Drafts.exists_fault (hfault.resolve_right False.elim)
    obtain ⟨gs, hgs, hsame⟩ := changeEdge_of_fault (fun f => Checked.within (.field "properties")
      (ds.check.map fun ps => { f with properties := ps })) hf rfl hfs
    exact ⟨.edge, gs, hgs, iff_of_false (by simp [hsame, hreports]) False.elim⟩
  | _ => exact hfault.elim False.elim False.elim

end Free

/-- The ways in which an edit ends: a registry objects to it, or what it sets does not pass, or is an
integer with too many digits, or else it succeeds. -/
inductive Ending (s : Store) (x : Edit) : Except StoreError Store → Prop where
  | objected {e : StoreError} (objection : Objection s x e) : Ending s x (.error e)
  | unfit {r : Refusal} (free : ∀ e, ¬Objection s x e) (unfit : x.Unfit) :
    Ending s x (.error (.refused r))
  | overlong (free : ∀ e, ¬Objection s x e) (overlong : x.Overlong) : Ending s x (.error .overlong)
  | done {t : Store} (effect : Effect s x t) : Ending s x (.ok t)

theorem ending_perform (s : Store) (x : Edit) : Ending s x (s.perform x) := by
  by_cases hobjection : ∃ e, Objection s x e
  · obtain ⟨e, he⟩ := hobjection
    rw [he.perform]
    exact .objected he
  · have hfree : ∀ e, ¬Objection s x e := not_exists.mp hobjection
    by_cases hfault : x.Unfit ∨ x.Overlong
    · obtain ⟨model, fs, hperform, hlong⟩ := exists_fault hfree hfault
      rw [hperform, StoreError.ofFaults]
      split
      next h => exact .overlong hfree (hlong.mp h)
      next h => exact .unfit hfree (hfault.resolve_right fun hx => h (hlong.mpr hx))
    · obtain ⟨hfit, hshort⟩ := not_or.mp hfault
      obtain ⟨t, ht⟩ := exists_effect hfree hfit hshort
      rw [ht.perform]
      exact .done ht

end Refusing
end GraphSchema
