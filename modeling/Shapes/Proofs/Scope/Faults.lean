import Mathlib.Data.List.Nodup
import Shapes.Proofs.Scope.Freezing

/-!
Which objects freeze, and which fault is told of those that do not. What is wrong with objects is stated
here by place: the way from an object down to a reference, as the indices of the object, of the fields and
of the variant on it. Places in declaration order, with a shape before what is inside it, are the places in
the order of words.
-/

namespace Shapes

/-- A search finds what is told at the first place where something is told, if there is such a place.
Nothing else is told there. -/
def Finds {ε : Type} (tells : List Nat → ε → Prop) : Option ε → Prop
  | none => ∀ place error, ¬ tells place error
  | some error => ∃ place, tells place error ∧
    ∀ other error', tells other error' → place < other ∨ (other = place ∧ error' = error)

namespace Finds

variable {α ε : Type} {tells tells' : List Nat → ε → Prop} {found : Option ε} {error : ε}

theorem congr (hfinds : Finds tells found) (htells : ∀ place error, tells' place error ↔ tells place error) :
    Finds tells' found := by
  obtain rfl : tells' = tells := by
    funext place error
    exact propext (htells place error)
  exact hfinds

/-- Where there is one place only, what is told there is found. -/
theorem single {told : ε → Prop} (hfound : ∀ error, found = some error ↔ told error) :
    Finds (fun place error => place = [] ∧ told error) found := by
  cases found with
  | none =>
    rintro place error ⟨_, htold⟩
    cases (hfound error).2 htold
  | some error =>
    refine ⟨[], ⟨rfl, (hfound error).1 rfl⟩, ?_⟩
    rintro other error' ⟨rfl, htold⟩
    exact Or.inr ⟨rfl, (Option.some.inj ((hfound error').2 htold)).symm⟩

/-- A search through a list comes to the places of each item under its index. -/
theorem findSome? {items : List α} {search : α → Option ε} {tells : α → List Nat → ε → Prop}
    (hitems : ∀ a ∈ items, Finds (tells a) (search a)) :
    Finds (fun place error => ∃ index a rest, items[index]? = some a ∧ place = index :: rest ∧
      tells a rest error) (items.findSome? search) := by
  cases hfound : items.findSome? search with
  | none =>
    rintro _ error ⟨index, a, rest, hget, rfl, htells⟩
    have hmem := List.mem_of_getElem? hget
    have hnone := hitems a hmem
    rw [List.findSome?_eq_none_iff.1 hfound a hmem] at hnone
    exact hnone rest error htells
  | some error =>
    obtain ⟨before, a, after, rfl, ha, hbefore⟩ := List.findSome?_eq_some_iff.1 hfound
    have hfirst := hitems a (by simp)
    rw [ha] at hfirst
    obtain ⟨place, htells, hleast⟩ := hfirst
    refine ⟨before.length :: place, ⟨before.length, a, place, by simp, rfl, htells⟩, ?_⟩
    rintro _ error' ⟨index, b, rest, hget, rfl, htold⟩
    rcases Nat.lt_trichotomy index before.length with hlt | rfl | hgt
    · rw [List.getElem?_append_left hlt] at hget
      have hmem := List.mem_of_getElem? hget
      have hnone := hitems b (by simp [hmem])
      rw [hbefore b hmem] at hnone
      exact absurd htold (hnone rest error')
    · obtain rfl : a = b := by simpa using hget
      rcases hleast rest error' htold with hlater | ⟨rfl, rfl⟩
      · exact Or.inl (List.cons_lt_cons_iff.2 (Or.inr ⟨rfl, hlater⟩))
      · exact Or.inr ⟨rfl, rfl⟩
    · exact Or.inl (List.cons_lt_cons_iff.2 (Or.inl hgt))

/-- An error is found iff it is told somewhere and nothing is told at an earlier place. -/
theorem eq_some_iff (hfinds : Finds tells found) : found = some error ↔
    ∃ place, tells place error ∧ ∀ earlier < place, ∀ error', ¬ tells earlier error' := by
  constructor
  · rintro rfl
    obtain ⟨place, htells, hleast⟩ := hfinds
    refine ⟨place, htells, fun earlier hearlier error' htold => ?_⟩
    rcases hleast earlier error' htold with hlater | ⟨rfl, _⟩
    · exact List.lt_asymm hlater hearlier
    · exact List.lt_irrefl _ hearlier
  · rintro ⟨place, htells, hfirst⟩
    cases found with
    | none => exact absurd htells (hfinds place error)
    | some error' =>
      obtain ⟨least, hleast, hrest⟩ := hfinds
      rcases hrest place error htells with hlater | ⟨_, rfl⟩
      · exact absurd hleast (hfirst least hlater error')
      · rfl

end Finds

private theorem findSome?_flatMap {α β γ : Type} (items : List α) (f : α → List β) (g : β → Option γ) :
    (items.flatMap f).findSome? g = items.findSome? fun a => (f a).findSome? g := by
  induction items with
  | nil => rfl
  | cons a rest ih =>
    rw [List.flatMap_cons, List.findSome?_append, List.findSome?_cons, ih]
    cases (f a).findSome? g <;> rfl

/-- What is found repeated stands behind items that are all different, and it is one of them or was seen
before. -/
theorem firstRepeated?_eq_some_iff {α : Type} [DecidableEq α] {seen items : List α} {a : α} :
    firstRepeated? seen items = some a ↔ ∃ before after, items = before ++ a :: after ∧ before.Nodup ∧
      (∀ b ∈ before, b ∉ seen) ∧ (a ∈ before ∨ a ∈ seen) := by
  induction items generalizing seen with
  | nil => simp [firstRepeated?]
  | cons first rest ih =>
    rw [firstRepeated?]
    split
    · rename_i hseen
      constructor
      · rintro ⟨⟩
        exact ⟨[], rest, rfl, List.nodup_nil, by simp, Or.inr hseen⟩
      · rintro ⟨before, after, hsplit, -, hfresh, -⟩
        cases before with
        | nil =>
          cases hsplit
          rfl
        | cons b before =>
          cases hsplit
          exact absurd hseen (hfresh first (by simp))
    · rename_i hunseen
      rw [ih]
      constructor
      · rintro ⟨before, after, rfl, hnodup, hfresh, hrepeated⟩
        have hnew : first ∉ before := fun hmem => hfresh first hmem (by simp)
        refine ⟨first :: before, after, rfl, List.nodup_cons.2 ⟨hnew, hnodup⟩, ?_, ?_⟩
        · rw [List.forall_mem_cons]
          exact ⟨hunseen, fun b hb hmem => hfresh b hb (by simp [hmem])⟩
        · simpa [or_assoc, or_left_comm] using hrepeated
      · rintro ⟨before, after, hsplit, hnodup, hfresh, hrepeated⟩
        cases before with
        | nil =>
          cases hsplit
          exact absurd hrepeated (by simpa using hunseen)
        | cons b before =>
          cases hsplit
          rw [List.nodup_cons] at hnodup
          rw [List.forall_mem_cons] at hfresh
          refine ⟨before, after, rfl, hnodup.2, fun b hb hmem => ?_, by
            simpa [or_assoc, or_left_comm] using hrepeated⟩
          rcases List.mem_cons.1 hmem with rfl | hmem
          · exact hnodup.1 hb
          · exact hfresh.2 b hb hmem

namespace Shape

variable {objects : List ObjectShape} {c : OneOf} {target : Reference} {error : BuildError} {shape : Shape}

/-- A target of a choice does not fit: no object has its id, or the object of that id declares the
discriminator field with a representation that is neither that of the keys nor any. -/
inductive Misfits (objects : List ObjectShape) (c : OneOf) (target : Reference) : BuildError → Prop
  | undeclared (hnone : ∀ o ∈ objects, o.id ≠ target.id) :
      Misfits objects c target (.unresolvedRef target.id)
  | clash {o : ObjectShape} {property : Property Shape} (hmem : o ∈ objects) (hid : o.id = target.id)
      (hproperty : o.property? c.field = some property)
      (hkind : property.shape.representation ≠ c.kind.representation)
      (hany : property.shape.representation ≠ .any) :
      Misfits objects c target
        (.discriminatorConflict o.id c.field property.shape.representation c.kind.representation)

/-- Something is wrong with a reference in a shape, at the place where the reference is. -/
inductive Offends (objects : List ObjectShape) : Shape → List Nat → BuildError → Prop
  | ref {r : Reference} (hnone : ∀ o ∈ objects, o.id ≠ r.id) :
      Offends objects (.ref r) [] (.unresolvedRef r.id)
  | variant {c : OneOf} {index : Nat} {variant : Discriminant × Reference} {error : BuildError}
      (hvariant : c.variants[index]? = some variant) (hmisfits : Misfits objects c variant.2 error) :
      Offends objects (.oneOf c) [index] error
  | item {items : Shape} {place : List Nat} {error : BuildError} (hoffends : Offends objects items place error) :
      Offends objects (.list items) place error
  | field {o : ObjectShape} {index : Nat} {field : String × Property Shape} {place : List Nat}
      {error : BuildError} (hfield : o.properties[index]? = some field)
      (hoffends : Offends objects field.2.shape place error) :
      Offends objects (.object o) (index :: place) error

/-- Among objects of different ids, the first of an id is the only one. -/
theorem find?_eq_some_iff (hdistinct : (objects.map ObjectOf.id).Nodup) {id : String} {o : ObjectShape} :
    objects.find? (·.id == id) = some o ↔ o ∈ objects ∧ o.id = id := by
  constructor
  · intro hfind
    exact ⟨List.mem_of_find?_eq_some hfind, by simpa using List.find?_some hfind⟩
  · rintro ⟨hmem, rfl⟩
    have hsome : (objects.find? (·.id == o.id)).isSome := by
      rw [List.find?_isSome]
      exact ⟨o, hmem, by simp⟩
    obtain ⟨other, hother⟩ := Option.isSome_iff_exists.1 hsome
    have hsame : other.id = o.id := by simpa using List.find?_some hother
    rw [hother, List.inj_on_of_nodup_map hdistinct (List.mem_of_find?_eq_some hother) hmem hsame]

theorem find?_eq_none_iff {id : String} :
    objects.find? (·.id == id) = none ↔ ∀ o ∈ objects, o.id ≠ id := by
  simp [List.find?_eq_none]

theorem targetFault?_eq_some_iff (hdistinct : (objects.map ObjectOf.id).Nodup) :
    targetFault? objects c target = some error ↔ Misfits objects c target error := by
  unfold targetFault?
  cases hfind : objects.find? (·.id == target.id) with
  | none =>
    have hnone := find?_eq_none_iff.1 hfind
    constructor
    · rintro ⟨⟩
      exact .undeclared hnone
    · rintro (_ | ⟨hmem, hid, _, _, _⟩)
      · rfl
      · exact absurd hid (hnone _ hmem)
  | some o =>
    obtain ⟨hmem, hid⟩ := (find?_eq_some_iff hdistinct).1 hfind
    dsimp only
    constructor
    · intro hfault
      cases hproperty : o.property? c.field with
      | none =>
        rw [hproperty] at hfault
        cases hfault
      | some property =>
        rw [hproperty] at hfault
        dsimp only at hfault
        split at hfault
        · cases hfault
        · rename_i hclash
          cases hfault
          exact .clash hmem hid hproperty (fun hkind => hclash (Or.inl hkind)) fun hany => hclash (Or.inr hany)
    · rintro (hnone | ⟨hmem', hid', hproperty, hkind, hany⟩)
      · exact absurd hid (hnone o hmem)
      · obtain rfl := List.inj_on_of_nodup_map hdistinct hmem hmem' (hid.trans hid'.symm)
        rw [hproperty]
        dsimp only
        rw [if_neg (not_or.2 ⟨hkind, hany⟩)]

theorem fault?_ref_eq_some_iff {r : Reference} :
    fault? objects (.ref r) = some error ↔ (∀ o ∈ objects, o.id ≠ r.id) ∧ error = .unresolvedRef r.id := by
  simp only [fault?]
  split
  · rename_i hdeclared
    obtain ⟨o, hmem, hid⟩ := List.any_eq_true.1 hdeclared
    simp only [reduceCtorEq, false_iff, not_and]
    exact fun hnone => absurd (by simpa using hid) (hnone o hmem)
  · rename_i hundeclared
    have hnone : ∀ o ∈ objects, o.id ≠ r.id := by simpa using hundeclared
    simp only [Option.some.injEq]
    exact ⟨fun heq => ⟨hnone, heq.symm⟩, fun heq => heq.2.symm⟩

theorem faultless_iff (hdistinct : (objects.map ObjectOf.id).Nodup) : shape.fault? objects = none ↔
    (∀ r, shape = .ref r → ∃ o ∈ objects, o.id = r.id) ∧
      ∀ c, shape = .oneOf c → ∀ variant ∈ c.variants, ∃ o ∈ objects, o.id = variant.2.id ∧ c.Admits o := by
  cases shape with
  | ref r => simp [fault?]
  | oneOf c => simp [fault?, targetFault?_eq_none_iff, find?_eq_some_iff hdistinct, and_assoc]
  | _ => simp [fault?]

/-- The walk over a shape finds what is wrong with the first reference with which something is wrong. -/
theorem finds_offends (hdistinct : (objects.map ObjectOf.id).Nodup) (shape : Shape) :
    Finds (Offends objects shape) (shape.nodes.findSome? (fault? objects)) := by
  induction shape using Shape.induction with
  | list items ih =>
    rw [nodes, List.findSome?_cons]
    refine ih.congr fun place error => ⟨fun hoffends => ?_, .item⟩
    cases hoffends with
    | item hoffends => exact hoffends
  | object o ih =>
    rw [nodes, List.findSome?_cons]
    dsimp only [fault?]
    rw [objectNodes_eq, findSome?_flatMap]
    refine (Finds.findSome? ih).congr fun place error => ⟨fun hoffends => ?_, ?_⟩
    · cases hoffends with
      | field hfield hoffends => exact ⟨_, _, _, hfield, rfl, hoffends⟩
    · rintro ⟨index, field, rest, hfield, rfl, hoffends⟩
      exact .field hfield hoffends
  | ref r =>
    rw [show (Shape.ref r).nodes = [.ref r] from rfl, List.findSome?_singleton]
    refine (Finds.single fun error => fault?_ref_eq_some_iff).congr fun place error => ⟨fun hoffends => ?_, ?_⟩
    · cases hoffends with
      | ref hnone => exact ⟨rfl, hnone, rfl⟩
    · rintro ⟨rfl, hnone, rfl⟩
      exact .ref hnone
  | oneOf c =>
    have hvariants : ∀ variant ∈ c.variants,
        Finds (fun place error => place = [] ∧ Misfits objects c variant.2 error)
          (targetFault? objects c variant.2) :=
      fun variant _ => .single fun error => targetFault?_eq_some_iff hdistinct
    rw [show (Shape.oneOf c).nodes = [.oneOf c] from rfl, List.findSome?_singleton]
    refine (Finds.findSome? hvariants).congr fun place error => ⟨fun hoffends => ?_, ?_⟩
    · cases hoffends with
      | variant hvariant hmisfits => exact ⟨_, _, [], hvariant, rfl, rfl, hmisfits⟩
    · rintro ⟨index, variant, _, hvariant, rfl, rfl, hmisfits⟩
      exact .variant hvariant hmisfits
  | _ => exact fun place error hoffends => by cases hoffends

end Shape

namespace Registry

variable {root : String} {objects : List ObjectShape} {error : BuildError}

/-- Something is wrong with a reference in one of the objects, at a place that begins with the index of the
object. -/
def OffendsAmong (objects : List ObjectShape) (place : List Nat) (error : BuildError) : Prop :=
  ∃ index o rest, objects[index]? = some o ∧ place = index :: rest ∧ (Shape.object o).Offends objects rest error

/-- Objects that make a scope: their ids are different, the root is among them, and so is all that is
referred to or chosen in them outside the scopes that are nested there; and what is chosen can hold the keys
if it declares the discriminator field. -/
structure Coherent (root : String) (objects : List ObjectShape) : Prop where
  distinct : (objects.map ObjectOf.id).Nodup
  rooted : ∃ o ∈ objects, o.id = root
  references : ∀ o ∈ objects, ∀ r, (Shape.object o).Encloses (.ref r) → ∃ target ∈ objects, target.id = r.id
  choices : ∀ o ∈ objects, ∀ c, (Shape.object o).Encloses (.oneOf c) → ∀ variant ∈ c.variants,
    ∃ target ∈ objects, target.id = variant.2.id ∧ c.Admits target

/-- The first fault of objects: the first id that was there before; else that there is no root; else what is
wrong at the first place where something is wrong. -/
inductive FirstFault (root : String) (objects : List ObjectShape) : BuildError → Prop
  | repeated {before after : List ObjectShape} {o : ObjectShape} (hsplit : objects = before ++ o :: after)
      (hdistinct : (before.map ObjectOf.id).Nodup) (hrepeated : o.id ∈ before.map ObjectOf.id) :
      FirstFault root objects (.duplicateObject o.id)
  | rootless (hdistinct : (objects.map ObjectOf.id).Nodup) (hrootless : ∀ o ∈ objects, o.id ≠ root) :
      FirstFault root objects (.unknownRoot root)
  | offence {o : ObjectShape} {place : List Nat} {error : BuildError}
      (hdistinct : (objects.map ObjectOf.id).Nodup) (hmem : o ∈ objects) (hroot : o.id = root)
      (hoffends : OffendsAmong objects place error)
      (hfirst : ∀ earlier < place, ∀ error', ¬ OffendsAmong objects earlier error') :
      FirstFault root objects error

/-- The check of objects of different ids finds what is wrong at the first place. -/
theorem finds_offendsAmong (hdistinct : (objects.map ObjectOf.id).Nodup) :
    Finds (OffendsAmong objects) ((objects.flatMap Shape.objectNodes).findSome? (Shape.fault? objects)) := by
  have hobjects : ∀ o ∈ objects, Finds ((Shape.object o).Offends objects)
      ((Shape.objectNodes o).findSome? (Shape.fault? objects)) := by
    intro o _
    have hfinds := Shape.finds_offends hdistinct (.object o)
    rwa [Shape.nodes, List.findSome?_cons] at hfinds
  rw [findSome?_flatMap]
  exact .findSome? hobjects

theorem firstRepeated?_ids_eq_some_iff {id : String} : firstRepeated? [] (objects.map ObjectOf.id) = some id ↔
    ∃ before o after, objects = before ++ o :: after ∧ (before.map ObjectOf.id).Nodup ∧
      o.id ∈ before.map ObjectOf.id ∧ o.id = id := by
  rw [firstRepeated?_eq_some_iff]
  constructor
  · rintro ⟨ids, others, hsplit, hnodup, -, hrepeated⟩
    obtain ⟨before, rest, rfl, rfl, hrest⟩ := List.map_eq_append_iff.1 hsplit
    obtain ⟨o, after, rfl, rfl, rfl⟩ := List.map_eq_cons_iff.1 hrest
    exact ⟨before, o, after, rfl, hnodup, by simpa using hrepeated, rfl⟩
  · rintro ⟨before, o, after, rfl, hnodup, hrepeated, rfl⟩
    exact ⟨before.map ObjectOf.id, after.map ObjectOf.id, by simp, hnodup, by simp, Or.inl hrepeated⟩

theorem firstRepeated?_ids_eq_none_iff :
    firstRepeated? [] (objects.map ObjectOf.id) = none ↔ (objects.map ObjectOf.id).Nodup := by
  simp [firstRepeated?_eq_none_iff]

theorem firstFault_of_fault? (hfault : fault? root objects = some error) : FirstFault root objects error := by
  unfold fault? at hfault
  cases hids : firstRepeated? [] (objects.map ObjectOf.id) with
  | some id =>
    rw [hids] at hfault
    cases hfault
    obtain ⟨before, o, after, hsplit, hdistinct, hrepeated, rfl⟩ := firstRepeated?_ids_eq_some_iff.1 hids
    exact .repeated hsplit hdistinct hrepeated
  | none =>
    have hdistinct := firstRepeated?_ids_eq_none_iff.1 hids
    rw [hids] at hfault
    dsimp only at hfault
    split at hfault
    · rename_i hrooted
      obtain ⟨o, hmem, hroot⟩ : ∃ o ∈ objects, o.id = root := by simpa using hrooted
      obtain ⟨place, hoffends, hfirst⟩ := (finds_offendsAmong hdistinct).eq_some_iff.1 hfault
      exact .offence hdistinct hmem hroot hoffends hfirst
    · rename_i hrootless
      cases hfault
      exact .rootless hdistinct (by simpa using hrootless)

theorem fault?_of_firstFault (hfirst : FirstFault root objects error) : fault? root objects = some error := by
  cases hfirst with
  | repeated hsplit hdistinct hrepeated =>
    rw [fault?, firstRepeated?_ids_eq_some_iff.2 ⟨_, _, _, hsplit, hdistinct, hrepeated, rfl⟩]
  | rootless hdistinct hrootless =>
    rw [fault?, firstRepeated?_ids_eq_none_iff.2 hdistinct]
    exact if_neg (by simpa using hrootless)
  | @offence o place _ hdistinct hmem hroot hoffends hfirst =>
    rw [fault?, firstRepeated?_ids_eq_none_iff.2 hdistinct]
    dsimp only
    rw [if_pos (by simpa using ⟨o, hmem, hroot⟩), (finds_offendsAmong hdistinct).eq_some_iff]
    exact ⟨place, hoffends, hfirst⟩

/-- The check finds the first fault. -/
theorem fault?_eq_some_iff : fault? root objects = some error ↔ FirstFault root objects error :=
  ⟨firstFault_of_fault?, fault?_of_firstFault⟩

theorem coherent_iff : Coherent root objects ↔ fault? root objects = none := by
  rw [fault?_eq_none_iff]
  constructor
  · rintro ⟨hdistinct, hrooted, hreferences, hchoices⟩
    refine ⟨hdistinct, hrooted, fun node hnode => ?_⟩
    obtain ⟨o, hmem, hnode⟩ := List.mem_flatMap.1 hnode
    have hencloses : (Shape.object o).Encloses node := by
      rw [Shape.encloses_iff, Shape.nodes]
      exact List.mem_cons_of_mem _ hnode
    refine (Shape.faultless_iff hdistinct).2 ⟨?_, ?_⟩
    · rintro r rfl
      exact hreferences o hmem r hencloses
    · rintro c rfl
      exact hchoices o hmem c hencloses
  · rintro ⟨hdistinct, hrooted, hnodes⟩
    have hfaultless : ∀ o ∈ objects, ∀ node, (Shape.object o).Encloses node → node.fault? objects = none := by
      intro o hmem node hencloses
      have hnode := Shape.encloses_iff.1 hencloses
      rw [Shape.nodes, List.mem_cons] at hnode
      rcases hnode with rfl | hnode
      · rfl
      · exact hnodes node (List.mem_flatMap.2 ⟨o, hmem, hnode⟩)
    refine ⟨hdistinct, hrooted, fun o hmem r hencloses => ?_, fun o hmem c hencloses => ?_⟩
    · exact ((Shape.faultless_iff hdistinct).1 (hfaultless o hmem _ hencloses)).1 r rfl
    · exact ((Shape.faultless_iff hdistinct).1 (hfaultless o hmem _ hencloses)).2 c rfl

theorem freeze_eq_error_iff {registry : Registry} :
    (freeze registry root objects).result = .error error ↔ fault? root objects = some error := by
  unfold freeze
  cases fault? root objects with
  | some fault => simp
  | none =>
    simp only [reduceCtorEq, iff_false]
    rintro ⟨⟩

/-- Freezing accepts exactly the objects that make a scope, and tells the first fault of all others. -/
theorem freeze_tells_first_fault (registry : Registry) (root : String) (objects : List ObjectShape) :
    ((∃ scope later, (freeze registry root objects).result = .ok (scope, later)) ↔
      Coherent root objects) ∧
    ∀ error, (freeze registry root objects).result = .error error ↔ FirstFault root objects error := by
  constructor
  · rw [coherent_iff]
    constructor
    · rintro ⟨scope, later, hfreeze⟩
      exact (freeze_eq_ok_iff.1 hfreeze).1
    · intro hfault
      exact ⟨_, _, freeze_eq_ok_iff.2 ⟨hfault, rfl, rfl⟩⟩
  · intro error
    rw [← fault?_eq_some_iff, freeze_eq_error_iff]

/-- A lost reference further inside an earlier field is told before one in a later field. -/
example : (freeze {} "Box" [
    { id := "Box"
      properties := [
        ("layers", { shape := .list (.object {
          id := "Layer"
          properties := [("lid", { shape := .bool }), ("below", { shape := .ref { id := "Floor" } })] }) }),
        ("owner", { shape := .ref { id := "Person" } })] }]).result = .error (.unresolvedRef "Floor") :=
  rfl

end Registry

end Shapes
