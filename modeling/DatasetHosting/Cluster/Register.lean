/-!
# Cluster/Register — values under names

A register holds one value under each name, in the order in which the names were first used.
-/

namespace DatasetHosting

/-- Values under names. -/
abbrev Register (α : Type) := List (String × α)

namespace Register

variable {α : Type}

/-- The value under a name. -/
def get? (register : Register α) (name : String) : Option α :=
  List.lookup name register

/-- The register with another value under a name. -/
def set : Register α → String → α → Register α
  | [], name, value => [(name, value)]
  | (other, old) :: rest, name, value =>
    if name = other then (name, value) :: rest else (other, old) :: set rest name value

/-- The names in use. -/
def names (register : Register α) : List String :=
  register.map Prod.fst

@[simp] theorem get?_nil (name : String) : get? ([] : Register α) name = none := rfl

theorem get?_cons (other : String) (old : α) (rest : Register α) (name : String) :
    get? ((other, old) :: rest) name = if name = other then some old else rest.get? name := by
  rw [get?, List.lookup_cons]
  by_cases h : name = other
  · rw [if_pos h, beq_iff_eq.mpr h]
  · rw [if_neg h, beq_eq_false_iff_ne.mpr h, get?]

/-- What is set is found. -/
@[simp] theorem get?_set_self (register : Register α) (name : String) (value : α) :
    (register.set name value).get? name = some value := by
  induction register with
  | nil => simp [set, get?_cons]
  | cons entry rest ih =>
    obtain ⟨other, old⟩ := entry
    by_cases h : name = other <;> simp [set, get?_cons, h, ih]

/-- What is set under another name changes nothing. -/
theorem get?_set_of_ne (register : Register α) {name other : String} (value : α) (h : other ≠ name) :
    (register.set name value).get? other = register.get? other := by
  induction register with
  | nil => simp [set, get?_cons, h]
  | cons entry rest ih =>
    obtain ⟨first, old⟩ := entry
    by_cases hn : name = first
    · subst hn; simp [set, get?_cons, h]
    · simp [set, get?_cons, hn, ih]

/-- Of two values set under one name the later stays. -/
@[simp] theorem set_set (register : Register α) (name : String) (first value : α) :
    (register.set name first).set name value = register.set name value := by
  induction register with
  | nil => simp [set]
  | cons entry rest ih =>
    obtain ⟨other, old⟩ := entry
    by_cases h : name = other <;> simp [set, h, ih]

/-- A name is in use exactly if there is a value under it. -/
theorem mem_names_iff {register : Register α} {name : String} :
    name ∈ register.names ↔ (register.get? name).isSome = true := by
  induction register with
  | nil => simp [names]
  | cons entry rest ih =>
    obtain ⟨other, old⟩ := entry
    by_cases h : name = other <;> simp_all [names, get?_cons]

theorem mem_names_set {register : Register α} {name other : String} {value : α} :
    other ∈ (register.set name value).names ↔ other = name ∨ other ∈ register.names := by
  by_cases h : other = name
  · simp [mem_names_iff, h]
  · simp [mem_names_iff, get?_set_of_ne register value h, h]

end Register

end DatasetHosting
