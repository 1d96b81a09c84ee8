import GraphSchema.Data.Value

/-! Checked input: all faults of an input are collected, each with its place and its cause. -/
namespace GraphSchema

inductive Step where
  | field (name : String)
  | index (i : Nat)
  deriving DecidableEq, Repr

/-- The kinds of input that are checked as a whole. -/
inductive Model where
  | property | node | edge | settings
  deriving DecidableEq, Repr

def Model.name : Model → String
  | .property => "PropertyDescriptor"
  | .node => "GraphNode"
  | .edge => "GraphEdge"
  | .settings => "Settings"

/-- The attributes that are worked out from the fields and cannot be set. -/
def Model.computed (m : Model) : List String :=
  (if m = .property then ["is_text"] else []) ++
    ["model_extra", "model_fields_set", "__fields_set__"]

/-- Causes of faults. An integer with too many digits to be written is none that is reported: where it
would have to be, it breaks off the whole check. -/
inductive Cause where
  | missing
  | notText
  | notBoolean
  | unclearBoolean
  | notInteger
  | unclearInteger
  | longInteger
  | notNumber
  | unclearNumber
  | notScalar
  | notList
  | notObject (model : Model)
  | fieldName (key : String)
  | blankLabel (model : Model)
  | noAttribute (name : String)
  | logLevel
  | collisionPolicy
  | notPath
  | overlong
  deriving DecidableEq, Repr

structure Fault where
  place : List Step
  cause : Cause
  deriving DecidableEq, Repr

/-- A check has been broken off, so that its faults are not reported. -/
def Fault.breaksOff (fs : List Fault) : Bool := fs.any fun f => f.cause = .overlong

/-- An input of a kind that was refused, with every fault found in it. -/
structure Refusal where
  model : Model
  faults : List Fault
  deriving DecidableEq, Repr

def Refusal.message (r : Refusal) : String :=
  toString r.faults.length ++ " validation error" ++ (if r.faults.length = 1 then "" else "s") ++
    " for " ++ r.model.name

@[simp] theorem map_eq_ok {ε α β : Type} {f : α → β} {c : Except ε α} {b : β} :
    c.map f = .ok b ↔ ∃ a, c = .ok a ∧ f a = b := by
  cases c <;> simp [Except.map]

theorem ne_ok_of_eq_error {ε α : Type} {c : Except ε α} {e : ε} {a : α} (h : c = .error e) :
    c ≠ .ok a := by
  simp [h]

abbrev Checked (α : Type) := Except (List Fault) α

namespace Checked

def fault {α : Type} (cause : Cause) : Checked α := .error [⟨[], cause⟩]

/-- Moves the faults of a part to its place in the whole. -/
def within {α : Type} (step : Step) : Checked α → Checked α
  | .ok a => .ok a
  | .error fs => .error (fs.map fun f => ⟨step :: f.place, f.cause⟩)

/-- Applies a checked function to a checked argument; the faults of both are kept, in order. -/
def andAlso {α β : Type} (f : Checked (α → β)) (a : Checked α) : Checked β :=
  match f, a with
  | .ok f, .ok a => .ok (f a)
  | .ok _, .error fs => .error fs
  | .error fs, .ok _ => .error fs
  | .error fs, .error gs => .error (fs ++ gs)

def refuseAs {α : Type} (model : Model) : Checked α → Except Refusal α
  | .ok a => .ok a
  | .error fs => .error ⟨model, fs⟩

/-- Checks the items of a list, the first of which has the given index. -/
def each {α β : Type} (check : α → Checked β) (start : Nat) : List α → Checked (List β)
  | [] => .ok []
  | a :: as =>
    andAlso (andAlso (.ok List.cons) (within (.index start) (check a))) (each check (start + 1) as)

@[simp] theorem andAlso_eq_ok {α β : Type} {f : Checked (α → β)} {a : Checked α} {b : β} :
    andAlso f a = .ok b ↔ ∃ g c, f = .ok g ∧ a = .ok c ∧ g c = b := by
  cases f <;> cases a <;> simp [andAlso]

@[simp] theorem within_eq_ok {α : Type} {step : Step} {a : Checked α} {b : α} :
    within step a = .ok b ↔ a = .ok b := by
  cases a <;> simp [within]

end Checked

/-- A field of an object, and the second name under which a document may give it. -/
structure FieldName where
  name : String
  alias? : Option String := none
  deriving DecidableEq, Repr

namespace FieldName

/-- The name that a document uses and that an absent field is reported by. -/
def shown (f : FieldName) : String := f.alias?.getD f.name

/-- The value of a field and the name it was found by; the second name goes first. -/
def find? (f : FieldName) (fields : List (String × Value)) : Option (String × Value) :=
  match f.alias?.bind fun a => (fields.lookup a).map (a, ·) with
  | some found => some found
  | none => (fields.lookup f.name).map (f.name, ·)

def required {α : Type} (f : FieldName) (check : Value → Checked α)
    (fields : List (String × Value)) : Checked α :=
  match f.find? fields with
  | some (name, v) => Checked.within (.field name) (check v)
  | none => Checked.within (.field f.shown) (Checked.fault .missing)

/-- An absent field takes its default, which is not checked. -/
def optional {α : Type} (f : FieldName) (default : α) (check : Value → Checked α)
    (fields : List (String × Value)) : Checked α :=
  match f.find? fields with
  | some (name, v) => Checked.within (.field name) (check v)
  | none => .ok default

end FieldName
end GraphSchema
