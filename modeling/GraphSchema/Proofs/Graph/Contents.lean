import GraphSchema.Proofs.Schema.WholeText

/-! The texts of a store that is loaded are texts of its document, so that a document without halves
makes a store without halves. -/
namespace GraphSchema
open Value (All)

namespace Check
variable {v w : Value} {s : String}

theorem whole_of_text (hv : v.Whole) (h : text v = .ok s) : Text.Whole s.toList := by
  cases v with
  | text t =>
    obtain rfl := Except.ok.inj h
    exact hv
  | _ => simp [text, Checked.fault] at h

/-- The text of a number has no halves. -/
theorem whole_of_textOrNumber (hv : v.Whole) (h : textOrNumber v = .ok s) :
    Text.Whole s.toList := by
  cases v with
  | text t =>
    obtain rfl := Except.ok.inj h
    exact hv
  | int n =>
    rw [textOrNumber] at h
    split at h
    next => simp [Checked.fault] at h
    next =>
      obtain rfl := Except.ok.inj h
      exact Value.whole_toText.mpr hv
  | float x =>
    obtain rfl := Except.ok.inj h
    exact Value.whole_toText.mpr hv
  | _ => simp [textOrNumber, Checked.fault] at h

theorem whole_of_label {model : Model} (hv : v.Whole) (h : label model v = .ok s) :
    Text.Whole s.toList := by
  unfold label at h
  split at h
  next => simp at h
  next ht =>
    split at h
    next => simp [Checked.fault] at h
    next =>
      obtain rfl := Except.ok.inj h
      rw [String.toList_ofList]
      exact (whole_of_textOrNumber hv ht).subset (Text.trim_subset ..)

theorem whole_of_description (hv : v.Whole) (h : description v = .ok w) : w.Whole := by
  unfold description at h
  split at h
  next =>
    obtain rfl := Except.ok.inj h
    exact Text.whole_nil
  next =>
    obtain ⟨t, ht, rfl⟩ := map_eq_ok.mp h
    exact whole_of_text hv ht

end Check

section Entities
variable {v : Value} {fields : List (String × Value)}

theorem Value.whole_of_mem (h : (object fields).All Value.Whole) {found : String × Value}
    (hfound : found ∈ fields) : found.2.All Value.Whole := (all_object.mp h).2 found hfound

theorem Property.whole_of_check {p : Property} (hv : v.All Value.Whole)
    (h : Property.check v = .ok p) : p.Whole := by
  unfold Property.check at h
  split at h
  next fields =>
    obtain ⟨_, max, h₁, -, rfl⟩ := Checked.andAlso_eq_ok.mp h
    obtain ⟨_, min, h₂, -, rfl⟩ := Checked.andAlso_eq_ok.mp h₁
    obtain ⟨_, defaultValue, h₃, hdefault, rfl⟩ := Checked.andAlso_eq_ok.mp h₂
    obtain ⟨_, auto, h₄, -, rfl⟩ := Checked.andAlso_eq_ok.mp h₃
    obtain ⟨_, required, h₅, -, rfl⟩ := Checked.andAlso_eq_ok.mp h₄
    obtain ⟨_, description, h₆, hdescription, rfl⟩ := Checked.andAlso_eq_ok.mp h₅
    obtain ⟨_, type, h₇, -, rfl⟩ := Checked.andAlso_eq_ok.mp h₆
    obtain ⟨_, key, h₈, -, rfl⟩ := Checked.andAlso_eq_ok.mp h₇
    obtain rfl := Except.ok.inj h₈
    constructor
    case description =>
      rcases FieldName.checked_of_optional hdescription with rfl | ⟨_, hmem, hfound⟩
      · exact Text.whole_nil
      · exact Check.whole_of_description (Value.whole_of_mem hv hmem).self hfound
    case defaultValue =>
      rcases FieldName.checked_of_optional hdefault with rfl | ⟨_, hmem, hfound⟩
      · trivial
      · exact Except.ok.inj hfound ▸ (Value.whole_of_mem hv hmem).self
  next => simp [Checked.fault] at h

theorem whole_of_checkProperties {ps : List Property} (hv : v.All Value.Whole)
    (h : checkProperties v = .ok ps) : ∀ p ∈ ps, p.Whole := by
  cases v with
  | list vs =>
    intro p hp
    obtain ⟨w, hw, hcheck⟩ := Checked.checked_of_each h p hp
    exact Property.whole_of_check ((Value.all_list.mp hv).2 w hw) hcheck
  | _ => simp [checkProperties, Drafts.check, Checked.fault] at h

section Parts
variable {used : Nat} {model : Model} (hv : (Value.object fields).All Value.Whole)
include hv

theorem whole_of_labelField {label : String}
    (h : labelField.required (Check.label model) fields = .ok label) :
    Text.Whole label.toList := by
  obtain ⟨_, hmem, hfound⟩ := FieldName.checked_of_required h
  exact Check.whole_of_label (Value.whole_of_mem hv hmem).self hfound

theorem whole_of_properties {ps : List Property}
    (h : propertiesField.optional [] checkProperties fields = .ok ps) : ∀ p ∈ ps, p.Whole := by
  rcases FieldName.checked_of_optional h with rfl | ⟨_, hmem, hfound⟩
  · exact fun _ hp => absurd hp List.not_mem_nil
  · exact whole_of_checkProperties (Value.whole_of_mem hv hmem) hfound

end Parts

theorem Node.whole_of_check {used : Nat} {n : Node} (hv : v.All Value.Whole)
    (h : Node.check used v = .ok n) : n.Whole := by
  unfold Node.check at h
  split at h
  next =>
    obtain ⟨_, ps, h₁, hps, rfl⟩ := Checked.andAlso_eq_ok.mp h
    obtain ⟨_, label, h₂, hlabel, rfl⟩ := Checked.andAlso_eq_ok.mp h₁
    obtain ⟨_, id, h₃, -, rfl⟩ := Checked.andAlso_eq_ok.mp h₂
    obtain rfl := Except.ok.inj h₃
    exact ⟨whole_of_labelField hv hlabel, whole_of_properties hv hps⟩
  next => simp [Checked.fault] at h

theorem Edge.whole_of_check {used : Nat} {e : Edge} (hv : v.All Value.Whole)
    (h : Edge.check used v = .ok e) : e.Whole := by
  unfold Edge.check at h
  split at h
  next =>
    obtain ⟨_, ps, h₁, hps, rfl⟩ := Checked.andAlso_eq_ok.mp h
    obtain ⟨_, finish, h₂, -, rfl⟩ := Checked.andAlso_eq_ok.mp h₁
    obtain ⟨_, start, h₃, -, rfl⟩ := Checked.andAlso_eq_ok.mp h₂
    obtain ⟨_, label, h₄, hlabel, rfl⟩ := Checked.andAlso_eq_ok.mp h₃
    obtain ⟨_, id, h₅, -, rfl⟩ := Checked.andAlso_eq_ok.mp h₄
    obtain rfl := Except.ok.inj h₅
    exact ⟨whole_of_labelField hv hlabel, whole_of_properties hv hps⟩
  next => simp [Checked.fault] at h

end Entities

namespace Load
variable {v w : Value} {P : Value → Prop}

/-- The names of an object may be taken for nodes or edges, and are refused. -/
theorem Part.cases (h : Part v w) (hnull : P .null) (hv : v.All P) :
    w.All P ∨ ∃ s, w = .text s := by
  obtain @⟨_, name, _, _, hparts, hmem⟩ := h
  rcases parts_cases hparts with hlist | htexts
  · have hall := hv.of_lookup_getD name hnull
    rw [hlist] at hall
    exact .inl ((Value.all_list.mp hall).2 w hmem)
  · exact .inr (htexts w hmem)

end Load

namespace Store

theorem whole_of_document {strict : Bool} {used : Nat} {v : Value} {s : Store}
    (hv : v.All Value.Whole) (h : (Load.document strict used v).outcome = .ok s) : s.Whole := by
  refine Load.document_keeps ?_ ?_ ?_ h
  · intro used w n s t hpart hcheck hadd hs
    obtain ⟨-, rfl⟩ := addNode_eq_ok.mp hadd
    refine ⟨fun m hm => ?_, hs.edges⟩
    rcases Registry.mem_entities_add.mp hm with hm | rfl
    · exact hs.nodes m hm
    · rcases hpart.cases trivial hv with hw | ⟨_, rfl⟩
      · exact Node.whole_of_check hw hcheck
      · simp [Node.check, Checked.fault] at hcheck
  · intro used w e s t hpart hcheck hinsert hs
    obtain ⟨-, rfl⟩ := registerEdge_eq_ok.mp (Load.registerEdge_of_insertEdge hinsert)
    refine ⟨hs.nodes, fun f hf => ?_⟩
    rcases Registry.mem_entities_add.mp hf with hf | rfl
    · exact hs.edges f hf
    · rcases hpart.cases trivial hv with hw | ⟨_, rfl⟩
      · exact Edge.whole_of_check hw hcheck
      · simp [Edge.check, Checked.fault] at hcheck
  · exact ⟨fun _ hn => absurd hn List.not_mem_nil, fun _ he => absurd he List.not_mem_nil⟩

end Store
end GraphSchema
