import GraphSchema.Data.Checked
import GraphSchema.Data.Json
import Mathlib.Data.List.TakeWhile
import Mathlib.Data.Nat.Digits.Defs

/-! The values inside a value. Every integer that is read from a text is short enough to be written.
-/
namespace GraphSchema
namespace Value

mutual

/-- A value and all values inside it. -/
def inner : Value → List Value
  | list items => list items :: innerItems items
  | object fields => object fields :: innerFields fields
  | v => [v]

def innerItems : List Value → List Value
  | [] => []
  | v :: vs => inner v ++ innerItems vs

def innerFields : List (String × Value) → List Value
  | [] => []
  | (_, v) :: fs => inner v ++ innerFields fs

end

/-- What holds of a value and of all values inside it. -/
def All (P : Value → Prop) (v : Value) : Prop := ∀ w ∈ v.inner, P w

section Parts
variable {P : Value → Prop} {v : Value} {items : List Value} {fields : List (String × Value)}

theorem forall_mem_innerItems : (∀ w ∈ innerItems items, P w) ↔ ∀ v ∈ items, v.All P := by
  induction items with
  | nil => simp [innerItems]
  | cons v vs ih => rw [innerItems, List.forall_mem_append, List.forall_mem_cons, ih, All]

theorem forall_mem_innerFields : (∀ w ∈ innerFields fields, P w) ↔ ∀ f ∈ fields, f.2.All P := by
  induction fields with
  | nil => simp [innerFields]
  | cons f fs ih => rw [innerFields, List.forall_mem_append, List.forall_mem_cons, ih, All]

theorem all_list : (list items).All P ↔ P (list items) ∧ ∀ v ∈ items, v.All P := by
  rw [All, inner, List.forall_mem_cons, forall_mem_innerItems]

theorem all_object : (object fields).All P ↔ P (object fields) ∧ ∀ f ∈ fields, f.2.All P := by
  rw [All, inner, List.forall_mem_cons, forall_mem_innerFields]

theorem All.self (h : v.All P) : P v := by
  refine h v ?_
  cases v with
  | list items => exact List.mem_cons_self
  | object fields => exact List.mem_cons_self
  | _ => exact List.mem_singleton_self _

theorem all_of_plain (hv : v.inner = [v]) (h : P v) : v.All P := by
  rw [All, hv]
  exact List.forall_mem_singleton.mpr h

theorem mem_of_lookup {name : String} (h : fields.lookup name = some v) : (name, v) ∈ fields := by
  obtain ⟨before, after, rfl, -⟩ := List.lookup_eq_some_iff.mp h
  exact List.mem_append_right _ List.mem_cons_self

theorem All.of_lookup {name : String} (h : (object fields).All P)
    (hv : fields.lookup name = some v) : v.All P :=
  (all_object.mp h).2 (name, v) (mem_of_lookup hv)

/-- Where a field is absent, null stands for it. -/
theorem All.of_lookup_getD (name : String) (hnull : P null) (h : (object fields).All P) :
    ((fields.lookup name).getD null).All P := by
  cases hv : fields.lookup name with
  | none => exact all_of_plain rfl hnull
  | some v => exact h.of_lookup hv

theorem all_of_put {key : String} (hv : v.All P) (hfields : ∀ f ∈ fields, f.2.All P) :
    ∀ f ∈ put key v fields, f.2.All P := by
  induction fields with
  | nil => exact List.forall_mem_singleton.mpr hv
  | cons f fs ih =>
    obtain ⟨hf, hfs⟩ := List.forall_mem_cons.mp hfields
    rw [put]
    split
    next => exact List.forall_mem_cons.mpr ⟨hv, hfs⟩
    next => exact List.forall_mem_cons.mpr ⟨hf, ih hfs⟩

end Parts

/-- A value that is no integer with too many digits. -/
def Short (v : Value) : Prop := ∀ n, v = int n → isLong n = false

end Value

namespace Numeral

theorem digitsValue_lt {cs : List Char} (h : ∀ c ∈ cs, isDigit c = true) :
    digitsValue cs < 10 ^ cs.length := by
  -- from any start the value stays below the next power of ten
  suffices hfrom : ∀ start : Nat, cs.foldl (fun n c => 10 * n + (c.toNat - 48)) start <
      10 ^ cs.length * (start + 1) by
    have h := hfrom 0
    rwa [Nat.zero_add, Nat.mul_one] at h
  induction cs with
  | nil => intro start; simp
  | cons c cs ih =>
    obtain ⟨hc, hcs⟩ := List.forall_mem_cons.mp h
    simp only [isDigit, Bool.and_eq_true, decide_eq_true_eq] at hc
    have hlow : 48 ≤ c.toNat := hc.1
    have hhigh : c.toNat ≤ 57 := hc.2
    intro start
    rw [List.foldl_cons, List.length_cons, Nat.pow_succ, Nat.mul_assoc]
    refine lt_of_lt_of_le (ih hcs _) (Nat.mul_le_mul_left _ ?_)
    omega

end Numeral

namespace Json
open Value

theorem isDigit_of_mem_wholeDigits {cs : List Char} :
    ∀ c ∈ wholeDigits cs, Numeral.isDigit c = true := by
  intro c hc
  cases cs with
  | nil => exact absurd hc List.not_mem_nil
  | cons d ds =>
    rw [wholeDigits] at hc
    split at hc
    next =>
      obtain rfl := List.mem_singleton.mp hc
      decide
    next => exact List.mem_takeWhile_imp hc

theorem isLong_of_digits {cs : List Char} (h : ∀ c ∈ cs, Numeral.isDigit c = true)
    (hlength : cs.length ≤ mostDigits) (n : Int) (hn : n.natAbs = Numeral.digitsValue cs) :
    isLong n = false := by
  have hdigits : (Nat.toDigits 10 n.natAbs).length ≤ mostDigits := by
    refine Nat.toDigits_length 10 _ _ (by decide) ?_
    rw [hn]
    exact lt_of_lt_of_le (Numeral.digitsValue_lt h) (Nat.pow_le_pow_right (by decide) hlength)
  rw [isLong, decide_eq_false_iff_not, Nat.not_lt]
  exact hdigits

section Reading
variable {c : Cursor} {r : Value × Cursor}

theorem short_of_readNumber (h : readNumber c = .ok r) : r.1.All Short := by
  unfold readNumber at h
  extract_lets negative start whole n fraction n' i at h
  split at h
  next => simp [Cursor.fail] at h
  next =>
    split at h
    next =>
      obtain rfl := Except.ok.inj h
      exact all_of_plain rfl fun _ hn => by simp at hn
    next =>
      split at h
      next =>
        obtain rfl := Except.ok.inj h
        exact all_of_plain rfl fun _ hn => by simp at hn
      next =>
        split at h
        next => simp at h
        next hlength =>
          obtain rfl := Except.ok.inj h
          refine all_of_plain rfl ?_
          rintro _ ⟨rfl⟩
          refine isLong_of_digits isDigit_of_mem_wholeDigits (Nat.not_lt.mp hlength) _ ?_
          split <;> simp [i, whole]

theorem short_of_readConstant (h : readConstant c = some r) : r.1.All Short := by
  have hconstants : ∀ k ∈ constants, k.2.inner = [k.2] ∧ k.2.Short := by
    simp only [constants, List.forall_mem_cons, Short]
    simp [Value.inner]
  obtain ⟨k, hk, rfl⟩ := Option.map_eq_some_iff.mp h
  obtain ⟨hinner, hshort⟩ := hconstants k (List.mem_of_find?_eq_some hk)
  exact all_of_plain hinner hshort

end Reading

mutual

theorem short_of_readValue {steps levels : Nat} {c : Cursor} {r : Value × Cursor}
    (h : readValue steps levels c = .ok r) : r.1.All Short := by
  cases steps with
  | zero => simp [readValue, Cursor.fail] at h
  | succ steps =>
    rw [readValue.eq_def] at h
    dsimp only at h
    split at h
    next =>
      obtain ⟨_, -, rfl⟩ := map_eq_ok.mp h
      exact all_of_plain rfl fun _ hn => by simp at hn
    next =>
      split at h
      next => simp at h
      next =>
        split at h
        next =>
          obtain rfl := Except.ok.inj h
          exact all_of_plain rfl fun _ hn => by simp at hn
        next =>
          obtain ⟨r, hr, rfl⟩ := map_eq_ok.mp h
          exact all_object.mpr ⟨fun _ hn => by simp at hn,
            short_of_readMembers (fun _ hf => absurd hf List.not_mem_nil) hr⟩
    next =>
      split at h
      next => simp at h
      next =>
        split at h
        next =>
          obtain rfl := Except.ok.inj h
          exact all_of_plain rfl fun _ hn => by simp at hn
        next =>
          obtain ⟨r, hr, rfl⟩ := map_eq_ok.mp h
          exact all_list.mpr ⟨fun _ hn => by simp at hn, short_of_readItems hr⟩
    next =>
      split at h
      next hconstant =>
        obtain rfl := Except.ok.inj h
        exact short_of_readConstant hconstant
      next => exact short_of_readNumber h

theorem short_of_readItems {steps levels : Nat} {c : Cursor} {r : List Value × Cursor}
    (h : readItems steps levels c = .ok r) : ∀ v ∈ r.1, v.All Short := by
  cases steps with
  | zero => simp [readItems, Cursor.fail] at h
  | succ steps =>
    rw [readItems] at h
    split at h
    next => simp at h
    next v c hv =>
      simp only at h
      split at h
      next =>
        obtain rfl := Except.ok.inj h
        exact List.forall_mem_singleton.mpr (short_of_readValue hv)
      next =>
        obtain ⟨r, hr, rfl⟩ := map_eq_ok.mp h
        exact List.forall_mem_cons.mpr ⟨short_of_readValue hv, short_of_readItems hr⟩
      next => simp [Cursor.fail] at h

theorem short_of_readMembers {steps levels : Nat} {fields : List (String × Value)} {c : Cursor}
    {r : List (String × Value) × Cursor} (hfields : ∀ f ∈ fields, f.2.All Short)
    (h : readMembers steps levels fields c = .ok r) : ∀ f ∈ r.1, f.2.All Short := by
  cases steps with
  | zero => simp [readMembers, Cursor.fail] at h
  | succ steps =>
    rw [readMembers.eq_def] at h
    dsimp only at h
    split at h
    next =>
      split at h
      next => simp at h
      next =>
        split at h
        next =>
          split at h
          next => simp at h
          next v _ hv =>
            have hput (key : String) : ∀ f ∈ put key v fields, f.2.All Short :=
              all_of_put (short_of_readValue hv) hfields
            split at h
            next =>
              obtain rfl := Except.ok.inj h
              exact hput _
            next => exact short_of_readMembers (hput _) h
            next => simp [Cursor.fail] at h
        next => simp [Cursor.fail] at h
    next => simp [Cursor.fail] at h

end

/-- Integers with more digits than can be written are not read either. -/
theorem short_of_read {text : List Char} {v : Value} (h : read text = .ok v) : v.All Short := by
  unfold read at h
  split at h
  next => simp at h
  next =>
    split at h
    next => simp at h
    next hv =>
      dsimp only at h
      split at h
      next =>
        obtain rfl := Except.ok.inj h
        exact short_of_readValue hv
      next => simp [Cursor.fail] at h

end Json
end GraphSchema
