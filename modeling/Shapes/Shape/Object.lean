import Shapes.BuildError
import Shapes.Shape.Basic

/-!
Objects: their construction, and the rules by which their fields may and must be present. The
rules see which fields are present and nothing else of them.
-/

namespace Shapes

/-- The first item that occurs earlier in the list, or among `seen`. -/
def firstRepeated? {α : Type} [DecidableEq α] (seen : List α) : List α → Option α
  | [] => none
  | a :: rest => if a ∈ seen then some a else firstRepeated? (a :: seen) rest

theorem firstRepeated?_eq_none_iff {α : Type} [DecidableEq α] {seen items : List α} :
    firstRepeated? seen items = none ↔ items.Nodup ∧ ∀ a ∈ items, a ∉ seen := by
  induction items generalizing seen with
  | nil => simp [firstRepeated?]
  | cons a rest ih =>
    rw [firstRepeated?]
    split
    · rename_i hseen
      simp [hseen]
    · rename_i hseen
      rw [ih, List.nodup_cons]
      constructor
      · rintro ⟨hnodup, hfresh⟩
        refine ⟨⟨fun hmem => hfresh a hmem (by simp), hnodup⟩, ?_⟩
        intro b hb
        rcases List.mem_cons.1 hb with rfl | hb
        · exact hseen
        · exact fun hmem => hfresh b hb (by simp [hmem])
      · rintro ⟨⟨ha, hnodup⟩, hfresh⟩
        refine ⟨hnodup, fun b hb hmem => ?_⟩
        rcases List.mem_cons.1 hmem with rfl | hmem
        · exact ha hb
        · exact hfresh b (by simp [hb]) hmem

namespace Property

variable {σ : Type}

/-- Whether the field has to be present, given which fields are. -/
def isRequired (property : Property σ) (present : String → Bool) : Bool :=
  property.required || property.requiredIf.any present ||
    (!property.requiredIfNot.isEmpty && !property.requiredIfNot.any present)

/-- The first of the fields present that the field excludes. -/
def conflict? (property : Property σ) (present : String → Bool) : Option String :=
  property.conflicts.find? present

end Property

namespace ObjectOf

variable {σ : Type}

/-- Declares an object. No field may be declared twice. -/
def declare (id : String) (properties : List (String × Property σ)) (allowUnknown : Bool) :
    Except BuildError (ObjectOf σ) :=
  match firstRepeated? [] (properties.map Prod.fst) with
  | some field => .error (.duplicateField id field)
  | none => .ok ⟨id, properties, allowUnknown⟩

end ObjectOf

namespace OneOf

/-- Declares a choice by keys of one kind. No key may be used twice. -/
def declare (field : String) (kind : KeyKind) (variants : List (Discriminant × Reference))
    (uniform : ∀ variant ∈ variants, variant.1.kind = kind) : Except BuildError OneOf :=
  match hrepeated : firstRepeated? [] (variants.map Prod.fst) with
  | some key => .error (.duplicateDiscriminator field key.text)
  | none => .ok ⟨field, kind, variants, uniform, (firstRepeated?_eq_none_iff.1 hrepeated).1⟩

def ofInts (field : String) (variants : List (Int64 × Reference)) : Except BuildError OneOf :=
  declare field .int (variants.map fun variant => (.int variant.1, variant.2)) (by
    intro variant hmem
    obtain ⟨given, _, rfl⟩ := List.mem_map.1 hmem
    rfl)

def ofStrings (field : String) (variants : List (String × Reference)) : Except BuildError OneOf :=
  declare field .string (variants.map fun variant => (.string variant.1, variant.2)) (by
    intro variant hmem
    obtain ⟨given, _, rfl⟩ := List.mem_map.1 hmem
    rfl)

end OneOf

end Shapes
