/-! Registries: entities under distinct keys, in the order in which they were added. -/
namespace GraphSchema

abbrev Registry (α : Type) := List (String × α)

namespace Registry
variable {α : Type}

def get? (r : Registry α) (key : String) : Option α := r.lookup key

def has (r : Registry α) (key : String) : Bool := (r.get? key).isSome

def keys (r : Registry α) : List String := r.map (·.1)

def entities (r : Registry α) : List α := r.map (·.2)

def add (r : Registry α) (key : String) (a : α) : Registry α := r ++ [(key, a)]

/-- Puts another entity in the place of the one under a key. -/
def replace (r : Registry α) (key : String) (a : α) : Registry α :=
  r.map fun e => if e.1 = key then (key, a) else e

def remove (r : Registry α) (key : String) : Registry α := r.filter fun e => e.1 ≠ key

@[simp] theorem keys_add (r : Registry α) (key : String) (a : α) :
    (r.add key a).keys = r.keys ++ [key] := by simp [add, keys]

@[simp] theorem keys_replace (r : Registry α) (key : String) (a : α) :
    (r.replace key a).keys = r.keys := by
  induction r with
  | nil => rfl
  | cons e r ih =>
    simp only [replace, keys, List.map_cons, List.map_map] at ih ⊢
    rw [ih]
    split <;> simp_all

@[simp] theorem keys_remove (r : Registry α) (key : String) :
    (r.remove key).keys = r.keys.filter (· ≠ key) := by
  simp [remove, keys, List.filter_map, Function.comp_def]

end Registry
end GraphSchema
