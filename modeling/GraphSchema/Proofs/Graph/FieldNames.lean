import GraphSchema.Proofs.Graph.Dump

/-! What an object gives a field, and under which name. Exchanging the second name of a field for
the first one, and names under which no field is given, leave what each field is given; and where a
field stands under both names, the first one makes no difference. -/
namespace GraphSchema

/-- The names of an object with their values. -/
abbrev Members := List (String × Value)

namespace FieldName
variable {f g : FieldName} {fs : List FieldName} {a b : Members} {name : String} {v : Value}

theorem lookup_filter {p : String × Value → Bool} (h : ∀ v, p (name, v) = true) (a : Members) :
    (a.filter p).lookup name = a.lookup name := by
  induction a with
  | nil => rfl
  | cons m a ih =>
    obtain ⟨key, w⟩ := m
    by_cases hkey : name = key
    · subst hkey
      simp [h]
    · have hne : (name == key) = false := by simpa using hkey
      rw [List.filter_cons]
      split <;> simp [List.lookup_cons, hne, ih]

/-- What an object gives a field, under whichever of its names. -/
def given (f : FieldName) (a : Members) : Members := a.filter fun m => m.1 ∈ f.names

theorem mem_names_of_given {m : String × Value} (h : m ∈ f.given a) : m.1 ∈ f.names := by
  simpa using (List.mem_filter.mp h).2

theorem find?_given (f : FieldName) (a : Members) : f.find? (f.given a) = f.find? a := by
  have hlookup {name : String} (hname : name ∈ f.names) :
      (f.given a).lookup name = a.lookup name :=
    lookup_filter (by simpa using hname) a
  have hfirst : f.name ∈ f.names := List.mem_cons_self ..
  unfold find?
  rw [hlookup hfirst]
  cases halias : f.alias? with
  | none => rfl
  | some second =>
    have hsecond : second ∈ f.names := by simp [names, halias]
    simp [hlookup hsecond]

theorem find?_of_given_nil (h : f.given a = []) : f.find? a = none := by
  rw [← find?_given, h]
  cases halias : f.alias? <;> simp [find?, halias]

theorem find?_of_given_single (h : f.given a = [(name, v)]) : f.find? a = some (name, v) := by
  have hname : name ∈ f.names := mem_names_of_given (a := a) (m := (name, v)) (by simp [h])
  rw [← find?_given, h]
  cases halias : f.alias? with
  | none =>
    obtain rfl : name = f.name := by simpa [names, halias] using hname
    simp [find?, halias]
  | some second =>
    obtain rfl | rfl : name = f.name ∨ name = second := by simpa [names, halias] using hname
    · by_cases hsame : second = f.name
      · simp [find?, halias, hsame]
      · have hne : (second == f.name) = false := by simpa using hsame
        simp [find?, halias, List.lookup_cons, hne]
    · simp [find?, halias]

theorem eq_of_mem_names (hapart : Apart fs) (hf : f ∈ fs) (hg : g ∈ fs) (hfirst : name ∈ f.names)
    (hsecond : name ∈ g.names) : f = g := by
  by_contra hne
  have : Std.Symm fun f g : FieldName => ∀ n ∈ f.names, n ∉ g.names :=
    ⟨fun _ _ h n hn hmem => h n hmem hn⟩
  exact hapart.forall hf hg hne name hfirst hsecond

/-- Two objects that give a field alike: neither gives it, or they give it values that are alike
under names that `g` does not tell apart. -/
def Agree (g : String → String) (alike : Value → Value → Prop) (f : FieldName) (a b : Members) :
    Prop :=
  Option.Rel (fun m n => g n.1 = g m.1 ∧ alike m.2 n.2) (f.find? a) (f.find? b)

section Agree
variable {h : String → String} {alike : Value → Value → Prop} {c : Members}

theorem Agree.cases (hab : f.Agree h alike a b) :
    (f.find? a = none ∧ f.find? b = none) ∨
      ∃ m n, f.find? a = some m ∧ f.find? b = some n ∧ h n.1 = h m.1 ∧ alike m.2 n.2 := by
  unfold Agree at hab
  generalize f.find? a = x, f.find? b = y at hab ⊢
  cases hab with
  | none => exact .inl ⟨rfl, rfl⟩
  | some hboth => exact .inr ⟨_, _, rfl, rfl, hboth⟩

theorem Agree.trans (hab : f.Agree id alike a b) (hbc : f.Agree h Eq b c) :
    f.Agree h alike a c := by
  unfold Agree
  rcases hab.cases with ⟨ha, hb⟩ | ⟨m, n, ha, hb, hname, hvalue⟩ <;>
    rcases hbc.cases with ⟨hb', hc⟩ | ⟨n', p, hb', hc, hname', hvalue'⟩ <;>
    rw [hb] at hb'
  · rw [ha, hc]
    exact .none
  · cases hb'
  · cases hb'
  · obtain rfl := Option.some.inj hb'
    rw [ha, hc]
    exact .some ⟨hname'.trans (congrArg h hname), hvalue' ▸ hvalue⟩

end Agree

end FieldName

section Names
open FieldName
variable {f : FieldName} {fs : List FieldName} {a b c : Members} {g : String → String}

/-- A name under which no field is given. -/
def Stranger (fs : List FieldName) (name : String) : Prop := ∀ f ∈ fs, name ∉ f.names

instance : DecidablePred (Stranger fs) :=
  fun name => inferInstanceAs (Decidable (∀ f ∈ fs, name ∉ f.names))

/-- The second object is the first one with second names of fields exchanged for first ones, with
names of no field added or removed, and in any order. -/
inductive Reworded (fs : List FieldName) : Members → Members → Prop
  | nil : Reworded fs [] []
  | kept {a b : Members} (m : String × Value) (rest : Reworded fs a b) :
    Reworded fs (m :: a) (m :: b)
  | exchanged {a b : Members} {f : FieldName} {second : String} (v : Value) (field : f ∈ fs)
    (spelling : f.alias? = some second) (rest : Reworded fs a b) :
    Reworded fs ((second, v) :: a) ((f.name, v) :: b)
  | added {a b : Members} {name : String} (v : Value) (stranger : Stranger fs name)
    (rest : Reworded fs a b) : Reworded fs a ((name, v) :: b)
  | removed {a b : Members} {name : String} (v : Value) (stranger : Stranger fs name)
    (rest : Reworded fs a b) : Reworded fs ((name, v) :: a) b
  | moved {a b c : Members} (rest : Reworded fs a b) (order : b.Perm c) : Reworded fs a c

/-- No field is given twice, be it under one name or under both. -/
def GivenOnce (fs : List FieldName) (a : Members) : Prop := ∀ f ∈ fs, (f.given a).length ≤ 1

instance : Decidable (GivenOnce fs a) :=
  inferInstanceAs (Decidable (∀ f ∈ fs, (f.given a).length ≤ 1))

theorem Reworded.given (hapart : Apart fs) (h : Reworded fs a b) (hf : f ∈ fs) :
    ((f.given b).map Prod.snd).Perm ((f.given a).map Prod.snd) := by
  induction h with
  | nil => exact .nil
  | kept m rest ih =>
    by_cases hm : m.1 ∈ f.names <;> simpa [FieldName.given, hm] using ih
  | @exchanged a b e second v field spelling rest ih =>
    have hfirst : e.name ∈ e.names := List.mem_cons_self ..
    have hsecond : second ∈ e.names := by simp [names, spelling]
    by_cases he : e = f
    · subst he
      simpa [FieldName.given, hfirst, hsecond] using ih
    · have hno {name : String} (hname : name ∈ e.names) : name ∉ f.names :=
        fun hmem => he (eq_of_mem_names hapart field hf hname hmem)
      simpa [FieldName.given, hno hfirst, hno hsecond] using ih
  | added v stranger rest ih => simpa [FieldName.given, stranger f hf] using ih
  | removed v stranger rest ih => simpa [FieldName.given, stranger f hf] using ih
  | moved rest order ih => exact ((order.symm.filter _).map _).trans ih

/-- The first object gives each field once, and the second one is it in other words. -/
def Respelled (fs : List FieldName) (a b : Members) : Prop := GivenOnce fs a ∧ Reworded fs a b

theorem Respelled.agree (hapart : Apart fs) (hg : ∀ f ∈ fs, ∀ n ∈ f.names, g n = f.name)
    (h : Respelled fs a b) (hf : f ∈ fs) : f.Agree g Eq a b := by
  obtain ⟨honce, hreworded⟩ := h
  have hperm := hreworded.given hapart hf
  have hmem {a : Members} {m : String × Value} (hm : f.given a = [m]) : m.1 ∈ f.names :=
    mem_names_of_given (a := a) (by simp [hm])
  unfold FieldName.Agree
  have hlength := honce f hf
  cases ha : f.given a with
  | nil =>
    have hb : f.given b = [] := by simpa [ha] using hperm
    rw [find?_of_given_nil ha, find?_of_given_nil hb]
    exact .none
  | cons m rest =>
    obtain rfl : rest = [] := by simpa [ha] using hlength
    rw [ha] at hperm
    obtain ⟨n, hb, hvalue⟩ := List.map_eq_singleton_iff.mp (List.perm_singleton.mp hperm)
    rw [find?_of_given_single ha, find?_of_given_single hb]
    exact .some ⟨by rw [hg f hf _ (hmem ha), hg f hf _ (hmem hb)], hvalue.symm⟩

/-- First names of fields that also stand under their second one are left out. -/
def Pruned (fs : List FieldName) (a b : Members) : Prop :=
  ∃ dropped : List String,
    (∀ name ∈ dropped, ∃ f ∈ fs, f.name = name ∧ ∃ second ∈ f.alias?, second ∈ a.map Prod.fst) ∧
      b = a.filter fun m => m.1 ∉ dropped

theorem Pruned.find?_eq (hapart : Apart fs) (hnames : ∀ f ∈ fs, f.alias? ≠ some f.name)
    (h : Pruned fs a b) (hf : f ∈ fs) : f.find? b = f.find? a := by
  obtain ⟨dropped, hdropped, rfl⟩ := h
  have hkept {name : String} (hname : name ∉ dropped) :
      (a.filter fun m => m.1 ∉ dropped).lookup name = a.lookup name :=
    lookup_filter (by simpa using hname) a
  -- what is dropped of the names of `f` is the first one, and the second one stands in the object
  have hfield {name : String} (hname : name ∈ f.names) (hmem : name ∈ dropped) :
      f.name = name ∧ ∃ second ∈ f.alias?, second ∈ a.map Prod.fst := by
    obtain ⟨e, he, hfirst, hsecond⟩ := hdropped name hmem
    have hown : name ∈ e.names := hfirst ▸ List.mem_cons_self ..
    obtain rfl := eq_of_mem_names hapart he hf hown hname
    exact ⟨hfirst, hsecond⟩
  have hfirst : f.name ∈ f.names := List.mem_cons_self ..
  unfold FieldName.find?
  cases halias : f.alias? with
  | none =>
    have hno : f.name ∉ dropped := by
      intro hmem
      obtain ⟨-, second, hsecond, -⟩ := hfield hfirst hmem
      simp [halias] at hsecond
    rw [hkept hno]
    rfl
  | some second =>
    have hsecond : second ∉ dropped := by
      intro hmem
      have hsame := (hfield (by simp [names, halias]) hmem).1
      exact hnames f hf (halias.trans (congrArg some hsame.symm))
    rw [Option.bind_some, Option.bind_some, hkept hsecond]
    cases hlookup : a.lookup second with
    | some v => rfl
    | none =>
      have hno : f.name ∉ dropped := by
        intro hmem
        obtain ⟨-, other, hother, hin⟩ := hfield hfirst hmem
        obtain rfl : second = other := by simpa [halias] using hother
        obtain ⟨m, hm, rfl⟩ := List.mem_map.mp hin
        exact absurd rfl (bne_iff_ne.mp (List.lookup_eq_none_iff.mp hlookup m hm))
      rw [hkept hno]

end Names

end GraphSchema
