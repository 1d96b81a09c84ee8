import GraphSchema.Graph.Validation
import GraphSchema.Proofs.Data.Inner

/-! Which checks are broken off. An integer for a label or an id that has too many digits breaks off the
check around it; all other checks report what they find. -/
namespace GraphSchema

/-- If the check finds faults, it reports them. -/
def Checked.Reports {α : Type} (c : Checked α) : Prop :=
  ∀ fs, c = .error fs → Fault.breaksOff fs = false

namespace Checked
variable {α β : Type} {c : Checked α} {step : GraphSchema.Step} {cause : Cause}

@[simp] theorem reports_ok (a : α) : Reports (.ok a) := fun _ h => by simp at h

theorem reports_fault (h : cause ≠ .overlong) : Reports (fault cause : Checked α) := by
  rintro _ ⟨⟩
  simp [Fault.breaksOff, h]

theorem breaksOff_within {fs : List Fault} (step : GraphSchema.Step) :
    Fault.breaksOff (fs.map fun f => ⟨step :: f.place, f.cause⟩) = Fault.breaksOff fs := by
  rw [Fault.breaksOff, List.any_map]
  rfl

theorem Reports.within (h : c.Reports) : (within step c).Reports := by
  cases c with
  | ok a => exact reports_ok a
  | error fs =>
    rintro _ ⟨⟩
    rw [breaksOff_within]
    exact h fs rfl

theorem Reports.andAlso {f : Checked (α → β)} (hf : f.Reports) (hc : c.Reports) :
    (andAlso f c).Reports := by
  cases f with
  | ok f =>
    cases c with
    | ok a => exact reports_ok _
    | error fs =>
      rintro _ ⟨⟩
      exact hc fs rfl
  | error gs =>
    cases c with
    | ok a =>
      rintro _ ⟨⟩
      exact hf gs rfl
    | error fs =>
      rintro _ ⟨⟩
      have hall := Bool.or_eq_false_iff.mpr ⟨hf gs rfl, hc fs rfl⟩
      rwa [Fault.breaksOff, Fault.breaksOff, ← List.any_append] at hall

theorem Reports.map {f : α → β} (h : c.Reports) : Reports (c.map f) := by
  cases c with
  | ok a => exact reports_ok _
  | error fs =>
    rintro _ ⟨⟩
    exact h fs rfl

theorem reports_each {check : α → Checked β} {start : Nat} {as : List α}
    (h : ∀ a ∈ as, (check a).Reports) : (each check start as).Reports := by
  induction as generalizing start with
  | nil => exact reports_ok _
  | cons a as ih =>
    obtain ⟨ha, has⟩ := List.forall_mem_cons.mp h
    exact ((reports_ok _).andAlso ha.within).andAlso (ih has)

end Checked

namespace FieldName

theorem mem_of_find? {f : FieldName} {fields : List (String × Value)} {found : String × Value}
    (h : f.find? fields = some found) : found ∈ fields := by
  have hlookup {name : String} (h : (fields.lookup name).map (name, ·) = some found) :
      found ∈ fields := by
    obtain ⟨v, hv, rfl⟩ := Option.map_eq_some_iff.mp h
    exact Value.mem_of_lookup hv
  unfold find? at h
  split at h
  next hfound =>
    obtain ⟨name, -, hname⟩ := Option.bind_eq_some_iff.mp (hfound.trans h)
    exact hlookup hname
  next => exact hlookup h

open Checked
variable {α : Type} {f : FieldName} {check : Value → Checked α} {default : α}
  {fields : List (String × Value)}

theorem reports_required (h : ∀ found ∈ f.find? fields, (check found.2).Reports) :
    (f.required check fields).Reports := by
  unfold required
  split
  next hfound => exact (h _ hfound).within
  next => exact (reports_fault Cause.noConfusion).within

theorem reports_optional (h : ∀ found ∈ f.find? fields, (check found.2).Reports) :
    (f.optional default check fields).Reports := by
  unfold optional
  split
  next hfound => exact (h _ hfound).within
  next => exact reports_ok _

end FieldName

namespace Check
open Checked
variable {v : Value}

theorem reports_text : (text v).Reports := by
  cases v with
  | text s => exact reports_ok s
  | _ => exact reports_fault Cause.noConfusion

theorem reports_key : (key v).Reports := by
  unfold key
  split
  next fs hfs => exact fun gs hgs => reports_text gs (hfs.trans hgs)
  next =>
    dsimp only
    split
    next => exact reports_ok _
    next => exact reports_fault Cause.noConfusion

theorem reports_description : (description v).Reports := by
  unfold description
  split
  next => exact reports_ok _
  next => exact reports_text.map

theorem reports_scalarName : (scalarName v).Reports := by
  unfold scalarName
  split
  next => exact reports_ok _
  next => exact reports_fault Cause.noConfusion

theorem reports_booleanOfInt (n : Int) : (booleanOfInt n).Reports := by
  unfold booleanOfInt
  split
  next => exact reports_ok _
  next =>
    split
    next => exact reports_ok _
    next => exact reports_fault Cause.noConfusion

theorem reports_boolean : (boolean v).Reports := by
  unfold boolean
  split
  next => exact reports_ok _
  next =>
    split
    next => exact reports_booleanOfInt _
    next => exact reports_fault Cause.noConfusion
  next =>
    split
    next =>
      split
      next => exact reports_booleanOfInt _
      next => exact reports_fault Cause.noConfusion
    next => exact reports_fault Cause.noConfusion
  next =>
    dsimp only
    split
    next => exact reports_ok _
    next =>
      split
      next => exact reports_ok _
      next => exact reports_fault Cause.noConfusion
  next => exact reports_fault Cause.noConfusion

theorem reports_bothFaults {integer number : Cause} (hinteger : integer ≠ .overlong)
    (hnumber : number ≠ .overlong) : (bothFaults integer number).Reports := by
  rintro _ ⟨⟩
  simp [Fault.breaksOff, hinteger, hnumber]

theorem reports_number {integer : Cause} (h : integer ≠ .overlong) (s : String) :
    (number integer s).Reports := by
  unfold number
  split
  next => exact reports_ok _
  next => exact reports_bothFaults h Cause.noConfusion

theorem reports_limit : (limit v).Reports := by
  unfold limit
  split
  next => exact reports_ok _
  next => exact reports_ok _
  next => exact reports_ok _
  next => exact reports_ok _
  next =>
    split
    next => exact reports_ok _
    next =>
      split
      next => exact reports_ok _
      next => exact reports_number Cause.noConfusion _
      next => exact reports_number Cause.noConfusion _
  next => exact reports_bothFaults Cause.noConfusion Cause.noConfusion

theorem reports_textOrNumber (h : v.Short) : (textOrNumber v).Reports := by
  cases v with
  | text s => exact reports_ok s
  | int n =>
    rw [textOrNumber, h n rfl]
    exact reports_ok _
  | float x => exact reports_ok _
  | _ => exact reports_fault Cause.noConfusion

theorem reports_label {model : Model} (h : v.Short) : (label model v).Reports := by
  unfold label
  split
  next fs hfs => exact fun gs hgs => reports_textOrNumber h gs (hfs.trans hgs)
  next =>
    split
    next => exact reports_fault Cause.noConfusion
    next => exact reports_ok _

end Check

open Checked Check

theorem Property.reports_check (v : Value) : (Property.check v).Reports := by
  have hflag (f : FieldName) (fields : List (String × Value)) (default : Value) :
      (f.optional default flag fields).Reports :=
    FieldName.reports_optional fun _ _ => reports_boolean.map
  have hlimit (f : FieldName) (fields : List (String × Value)) (default : Value) :
      (f.optional default limit fields).Reports :=
    FieldName.reports_optional fun _ _ => reports_limit
  unfold Property.check
  split
  next fields =>
    have hkey : (keyField.required Check.key fields).Reports :=
      FieldName.reports_required fun _ _ => reports_key
    have htype : (typeField.optional (.text "String") Check.scalarName fields).Reports :=
      FieldName.reports_optional fun _ _ => reports_scalarName
    have hdescription : (descriptionField.optional (.text "") Check.description fields).Reports :=
      FieldName.reports_optional fun _ _ => reports_description
    have hdefault : (defaultValueField.optional .null .ok fields).Reports :=
      FieldName.reports_optional fun _ _ => reports_ok _
    exact (((((((reports_ok _).andAlso hkey).andAlso htype).andAlso hdescription).andAlso
      (hflag _ _ _)).andAlso (hflag _ _ _)).andAlso hdefault).andAlso (hlimit _ _ _)
      |>.andAlso (hlimit _ _ _)
  next => exact reports_fault Cause.noConfusion

theorem Drafts.reports_check (ds : Drafts) : ds.check.Reports := by
  unfold check
  split
  next =>
    refine reports_each fun d _ => ?_
    cases d with
    | property p => exact reports_ok p
    | value v => exact Property.reports_check v
  next => exact reports_each fun v _ => Property.reports_check v
  next => exact reports_fault Cause.noConfusion

section Entities
variable {used : Nat} {v : Value} {fields : List (String × Value)}

theorem reports_properties :
    (propertiesField.optional [] checkProperties fields).Reports :=
  FieldName.reports_optional fun _ _ => Drafts.reports_check _

section Short
variable (h : (Value.object fields).All Value.Short)
include h

theorem Value.short_of_find? {f : FieldName} {found : String × Value}
    (hfound : f.find? fields = some found) : found.2.Short :=
  ((all_object.mp h).2 found (FieldName.mem_of_find? hfound)).self

theorem reports_id : (idField.optional (freshId used) textOrNumber fields).Reports :=
  FieldName.reports_optional fun _ hfound => reports_textOrNumber (Value.short_of_find? h hfound)

theorem reports_labelField (model : Model) :
    (labelField.required (Check.label model) fields).Reports :=
  FieldName.reports_required fun _ hfound => reports_label (Value.short_of_find? h hfound)

theorem reports_end (f : FieldName) : (f.required textOrNumber fields).Reports :=
  FieldName.reports_required fun _ hfound => reports_textOrNumber (Value.short_of_find? h hfound)

end Short

theorem Node.reports_check (h : v.All Value.Short) : (Node.check used v).Reports := by
  cases v with
  | object fields =>
    exact (((reports_ok _).andAlso (reports_id h)).andAlso (reports_labelField h _)).andAlso
      reports_properties
  | _ => exact reports_fault Cause.noConfusion

theorem Edge.reports_check (h : v.All Value.Short) : (Edge.check used v).Reports := by
  cases v with
  | object fields =>
    exact (((((reports_ok _).andAlso (reports_id h)).andAlso (reports_labelField h _)).andAlso
      (reports_end h _)).andAlso (reports_end h _)).andAlso reports_properties
  | _ => exact reports_fault Cause.noConfusion

end Entities
end GraphSchema
