/-!
Named entries in the order in which they were inserted. A repeated name replaces the value and
keeps the place; every operation here keeps distinct names distinct.
-/

namespace Shapes

/-- Named entries in insertion order. -/
abbrev Fields (α : Type) := List (String × α)

namespace Fields

variable {α : Type}

def names (fields : Fields α) : List String :=
  fields.map Prod.fst

def get? (fields : Fields α) (name : String) : Option α :=
  fields.lookup name

def has (fields : Fields α) (name : String) : Bool :=
  (fields.get? name).isSome

/-- Stores `value` under `name`, in its old place when the name is known and last otherwise. -/
def insert (name : String) (value : α) : Fields α → Fields α
  | [] => [(name, value)]
  | (known, old) :: rest =>
    if known = name then (known, value) :: rest else (known, old) :: insert name value rest

/-- Removes the entry stored under `name` and keeps the order of the others. -/
def erase (name : String) : Fields α → Fields α
  | [] => []
  | (known, old) :: rest => if known = name then rest else (known, old) :: erase name rest

/-- No name is stored twice. -/
def Distinct (fields : Fields α) : Prop :=
  fields.names.Nodup

instance (fields : Fields α) : Decidable fields.Distinct :=
  inferInstanceAs (Decidable fields.names.Nodup)

@[simp] theorem get?_nil (name : String) : get? ([] : Fields α) name = none := rfl

theorem get?_cons (known name : String) (value : α) (rest : Fields α) :
    get? ((known, value) :: rest) name = if name = known then some value else get? rest name := by
  by_cases h : name = known
  · subst h; simp [get?]
  · have hbeq : (name == known) = false := beq_false_of_ne h
    simp [get?, List.lookup_cons, hbeq, h]

theorem get?_insert (fields : Fields α) (name other : String) (value : α) :
    (insert name value fields).get? other =
      if other = name then some value else fields.get? other := by
  induction fields with
  | nil => simp [insert, get?_cons]
  | cons entry rest ih =>
    obtain ⟨known, old⟩ := entry
    by_cases hknown : known = name
    · subst hknown
      by_cases hother : other = known <;> simp [insert, get?_cons, hother]
    · by_cases hother : other = known
      · subst hother; simp [insert, get?_cons, hknown]
      · simp [insert, get?_cons, hknown, hother, ih]

theorem mem_names_insert {fields : Fields α} {name other : String} {value : α} :
    other ∈ (insert name value fields).names ↔ other = name ∨ other ∈ fields.names := by
  induction fields with
  | nil => simp [insert, names]
  | cons entry rest ih =>
    obtain ⟨known, old⟩ := entry
    simp only [names] at ih
    by_cases hknown : known = name
    · subst hknown; simp [insert, names]
    · simp [insert, names, hknown, ih]
      grind

theorem Distinct.insert {fields : Fields α} (hdistinct : fields.Distinct) (name : String) (value : α) :
    (Fields.insert name value fields).Distinct := by
  induction fields with
  | nil => simp [Fields.insert, Distinct, names]
  | cons entry rest ih =>
    obtain ⟨known, old⟩ := entry
    simp only [Distinct, names, List.map_cons, List.nodup_cons] at hdistinct
    by_cases hknown : known = name
    · simpa [Fields.insert, hknown, Distinct, names] using hdistinct
    · have hrest := ih hdistinct.2
      simp only [Fields.insert, hknown, if_false, Distinct, names, List.map_cons, List.nodup_cons]
      refine ⟨fun hmem => ?_, hrest⟩
      rcases mem_names_insert.1 hmem with h | h
      · exact hknown h
      · exact hdistinct.1 h

end Fields

end Shapes
