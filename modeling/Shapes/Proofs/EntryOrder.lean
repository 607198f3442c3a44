import Shapes.Proofs.Matching

/-!
The order in which the entries of a document are written. It decides which of several undeclared entries an
error names, and it stays in untyped documents. Nothing else that reading gives depends on it.
-/

namespace Shapes

open Traced (Tally)

namespace Json

/-- Documents that are equal up to the order of entries, at every depth. -/
inductive Reordered : Json → Json → Prop
  | refl {document : Json} : Reordered document document
  | number {n m : Number} (hsame : n.same m = true) : Reordered (.number n) (.number m)
  | array {items others : List Json} (hitems : List.Forall₂ Reordered items others) :
      Reordered (.array items) (.array others)
  | object {entries others : Fields Json} (hnames : entries.names.Perm others.names)
      (hcontents : ∀ name content other, Fields.get? entries name = some content →
        Fields.get? others name = some other → Reordered content other) :
      Reordered (.object entries) (.object others)

namespace Reordered

variable {document other : Json} {entries others : Fields Json}

theorem kindName_eq (hreordered : document.Reordered other) : document.kindName = other.kindName := by
  cases hreordered <;> rfl

theorem isNull_eq (hreordered : document.Reordered other) : document.isNull = other.isNull := by
  cases hreordered <;> rfl

theorem coerce_eq (hreordered : document.Reordered other) (kind : KeyKind) :
    kind.coerce document = kind.coerce other := by
  cases hreordered with
  | number hsame =>
    cases kind with
    | int => rw [KeyKind.coerce, KeyKind.coerce, Number.toInt64?_congr hsame]
    | string => rfl
  | _ => cases kind <;> rfl

/-- What is stored under a name is reordered. -/
theorem rel_get? (hreordered : (Json.object entries).Reordered (.object others)) (name : String) :
    Option.Rel Reordered (Fields.get? entries name) (Fields.get? others name) := by
  cases hreordered with
  | refl => exact .refl (fun _ => .refl) _
  | object hnames hcontents =>
    have hnone : Fields.get? entries name = none ↔ Fields.get? others name = none := by
      rw [Fields.get?_eq_none_iff, Fields.get?_eq_none_iff, hnames.mem_iff]
    cases hget : Fields.get? entries name with
    | none =>
      rw [hnone.1 hget]
      exact .none
    | some content =>
      cases hother : Fields.get? others name with
      | none => rw [hnone.2 hother] at hget; cases hget
      | some other => exact .some (hcontents name content other hget hother)

theorem mem_names_iff (hreordered : (Json.object entries).Reordered (.object others)) {name : String} :
    name ∈ entries.names ↔ name ∈ others.names := by
  cases hreordered with
  | refl => rfl
  | object hnames _ => exact hnames.mem_iff

end Reordered

/-- In no object of the document, at any depth, is a name used twice. -/
inductive Distinct : Json → Prop
  | null : Distinct .null
  | bool {b : Bool} : Distinct (.bool b)
  | number {n : Number} : Distinct (.number n)
  | string {s : String} : Distinct (.string s)
  | array {items : List Json} (hitems : ∀ item ∈ items, Distinct item) : Distinct (.array items)
  | object {entries : Fields Json} (hnames : Fields.Distinct entries)
      (hcontents : ∀ entry ∈ entries, Distinct entry.2) : Distinct (.object entries)

attribute [simp] Distinct.null Distinct.bool Distinct.number Distinct.string

@[simp] theorem distinct_array_iff {items : List Json} :
    (Json.array items).Distinct ↔ ∀ item ∈ items, item.Distinct :=
  ⟨fun hdistinct => by cases hdistinct; assumption, .array⟩

@[simp] theorem distinct_object_iff {entries : Fields Json} :
    (Json.object entries).Distinct ↔ Fields.Distinct entries ∧ ∀ entry ∈ entries, entry.2.Distinct :=
  ⟨fun hdistinct => by cases hdistinct; constructor <;> assumption, fun hboth => .object hboth.1 hboth.2⟩

theorem sameItems_iff {items others : List Json} :
    sameItems items others = true ↔ List.Forall₂ (fun item other => item.same other = true) items others := by
  induction items generalizing others with
  | nil => cases others <;> simp [sameItems]
  | cons item rest ih => cases others <;> simp [sameItems, ih]

theorem sameEntries_iff {entries others : Fields Json} : sameEntries entries others = true ↔
    ∀ entry ∈ entries, ∃ found, others.get? entry.1 = some found ∧ entry.2.same found = true := by
  induction entries with
  | nil => simp [sameEntries]
  | cons entry rest ih =>
    obtain ⟨name, content⟩ := entry
    rw [sameEntries, Bool.and_eq_true, ih, List.forall_mem_cons]
    refine and_congr_left fun _ => ?_
    cases others.get? name <;> simp

/-- Comparing documents without regard to the order of entries finds reordered documents equal. -/
theorem Distinct.reordered_of_same {document other : Json} (hdistinct : document.Distinct)
    (hsame : document.same other = true) : document.Reordered other := by
  induction hdistinct generalizing other with
  | number =>
    cases other with
    | number => exact .number hsame
    | _ => cases hsame
  | array _ ih =>
    cases other with
    | array others =>
      have hitems := (List.forall₂_and_left _ _).2 ⟨fun _ hmem => hmem, sameItems_iff.1 hsame⟩
      exact .array (hitems.imp fun item again hboth => ih item hboth.1 hboth.2)
    | _ => cases hsame
  | @object entries hnames _ ih =>
    cases other with
    | object others =>
      obtain ⟨hlength, hentries⟩ := Bool.and_eq_true_iff.1 hsame
      have hfound := sameEntries_iff.1 hentries
      refine .object (Fields.perm_names_of_found hnames (beq_iff_eq.1 hlength) fun entry hmem =>
        (hfound entry hmem).imp fun _ => And.left) fun name content other hcontent hother => ?_
      have hmem := Fields.mem_of_get? hcontent
      obtain ⟨found, hget, hfits⟩ := hfound _ hmem
      obtain rfl := Option.some.inj (hget.symm.trans hother)
      exact ih _ hmem hfits
    | _ => cases hsame
  | null =>
    cases other with
    | null => exact .refl
    | _ => cases hsame
  | _ =>
    cases other <;> first
      | exact absurd hsame Bool.false_ne_true
      | exact beq_iff_eq.1 hsame ▸ .refl

end Json

/-- Values that are equal up to the order of entries in untyped documents. Fields are in the same order. -/
inductive Value.Reordered : Value → Value → Prop
  | refl {value : Value} : Value.Reordered value value
  | float {x y : Float} (hequal : (x == y) = true) : Value.Reordered (.float x) (.float y)
  | list {items others : List Value} (hitems : List.Forall₂ Value.Reordered items others) :
      Value.Reordered (.list items) (.list others)
  | object {id : String} {fields others : Fields Value}
      (hnames : fields.names = others.names)
      (hcontents : List.Forall₂ Value.Reordered (fields.map Prod.snd) (others.map Prod.snd)) :
      Value.Reordered (.object id fields) (.object id others)
  | oneOf {key : Discriminant} {value other : Value} (hvalue : Value.Reordered value other) :
      Value.Reordered (.oneOf key value) (.oneOf key other)
  | any {document other : Json} (hdocument : document.Reordered other) :
      Value.Reordered (.any document) (.any other)

/-- Errors at the same place for the same cause, except that both may be about an entry that is not known. -/
structure DataError.Reordered (error other : DataError) : Prop where
  path : error.path = other.path
  cause : error.rootCause = other.rootCause ∨ ∃ name another,
    error.rootCause = .unknownField name ∧ other.rootCause = .unknownField another

/-- Readings that stop for errors of that sort, or both do not come to an end. -/
inductive Stop.Reordered : Stop DataError → Stop DataError → Prop
  | failed {error other : DataError} (herror : error.Reordered other) :
      Stop.Reordered (.failed error) (.failed other)
  | unfinished : Stop.Reordered .unfinished .unfinished

theorem Reading.congruent_reordered : Reading.Congruent Value.Reordered Stop.Reordered where
  same _ := .refl
  list := .list
  object {_ fields others} hfields := by
    have hnames : List.Forall₂ (· = ·) fields.names others.names := by
      rw [Fields.names, Fields.names, List.forall₂_map_left_iff, List.forall₂_map_right_iff]
      exact hfields.imp fun _ _ => And.left
    refine .object (List.forall₂_eq_eq_eq ▸ hnames) ?_
    rw [List.forall₂_map_left_iff, List.forall₂_map_right_iff]
    exact hfields.imp fun _ _ => And.right
  oneOf := .oneOf
  sameError
    | .failed _ => .failed ⟨rfl, Or.inl rfl⟩
    | .unfinished => .unfinished
  inField
    | .failed herror => .failed ⟨congrArg (List.cons _) herror.path, herror.cause⟩
    | .unfinished => .unfinished

/-- Where some entry is not declared, some entry is, whatever the order. -/
theorem ObjectOf.rel_undeclared? {o : ObjectShape} {tolerated : Option String} {entries others : Fields Json}
    (hreordered : (Json.object entries).Reordered (.object others)) :
    Option.Rel (fun name other => Stop.Reordered (.failed (.unknownField name)) (.failed (.unknownField other)))
      (o.undeclared? tolerated entries) (o.undeclared? tolerated others) := by
  have hnone : o.undeclared? tolerated entries = none ↔ o.undeclared? tolerated others = none := by
    unfold undeclared?
    split
    · rfl
    · simp only [List.find?_eq_none, hreordered.mem_names_iff]
  cases hfirst : o.undeclared? tolerated entries with
  | none =>
    rw [hnone.1 hfirst]
    exact .none
  | some name =>
    cases hother : o.undeclared? tolerated others with
    | none => rw [hnone.2 hother] at hfirst; cases hfirst
    | some other => exact .some (.failed ⟨rfl, Or.inr ⟨name, other, rfl, rfl⟩⟩)

namespace Shape

variable {registry : Registry} {shape : Shape} {document other : Json} {budget : Nat}

/-- Reordered documents match at every level. -/
theorem matches_of_reordered (hreordered : document.Reordered other) :
    shape.Matches registry Value.Reordered Stop.Reordered (fun _ => Json.Reordered) document other := by
  by_cases hany : shape = .any
  · exact .any hany (.any hreordered)
  cases hreordered with
  | refl => exact .same
  | @number n m hsame =>
    refine .number hany (Number.toInt64?_congr hsame) ?_
    cases n with
    | integer i range =>
      cases m with
      | integer j range' =>
        obtain rfl := beq_iff_eq.1 hsame
        exact .refl
      | float => cases hsame
    | float x finite =>
      cases m with
      | integer => cases hsame
      | float y finite' => exact .float hsame
  | array hitems => exact .array hany fun _ _ => hitems
  | @object entries others hnames hcontents =>
    have hreordered : (Json.object entries).Reordered (.object others) := .object hnames hcontents
    have hpresent : ∀ name, Option.Rel Json.Reordered (Json.present? entries name) (Json.present? others name) :=
      fun name => (hreordered.rel_get? name).filter fun _ _ hraw => by rw [hraw.isNull_eq]
    refine .object hany (fun c _ => ?_) fun o _ => ⟨ObjectOf.rel_undeclared? hreordered, ?_, ?_⟩
    · exact (hreordered.rel_get? c.field).imp fun _ _ hraw => ⟨hraw.coerce_eq c.kind, hraw.kindName_eq⟩
    · exact fun _ _ name _ => (hpresent name).isSome_eq
    · exact fun field _ => hpresent field.1

/-- Of documents that are equal up to the order of entries, both read or both fail. What is read is equal up to
the order of entries in untyped documents. The errors have the same place and the same root cause, except where
an entry is not declared: then each names the first such entry in the order of its own document. -/
theorem read_of_reordered (registry : Registry) (shape : Shape) (hreordered : document.Reordered other) :
    (∃ value again, (read registry shape document).result = .ok value ∧
      (read registry shape other).result = .ok again ∧ value.Reordered again) ∨
    (∃ error again, (read registry shape document).result = .error (.failed error) ∧
      (read registry shape other).result = .error (.failed again) ∧ error.path = again.path ∧
      (((∀ name, error.rootCause ≠ .unknownField name) ∧ error.rootCause = again.rootCause) ∨
        ∃ name another, error.rootCause = .unknownField name ∧ again.rootCause = .unknownField another ∧
          FirstUndeclared registry shape document error.path name ∧
          FirstUndeclared registry shape other again.path another)) ∨
    ((read registry shape document).result = .error .unfinished ∧
      (read registry shape other).result = .error .unfinished) := by
  have htally : Tally Value.Reordered Stop.Reordered (read registry shape document) (read registry shape other) :=
    tally_readNested Reading.congruent_reordered (fun _ _ _ => matches_of_reordered) hreordered
  cases htally with
  | ok hleft hright hvalues => exact Or.inl ⟨_, _, hleft, hright, hvalues⟩
  | error hleft hright hstops =>
    cases hstops with
    | unfinished => exact Or.inr (Or.inr ⟨hleft, hright⟩)
    | @failed error again herror =>
      refine Or.inr (Or.inl ⟨error, again, hleft, hright, herror.path, ?_⟩)
      by_cases hknown : ∀ name, error.rootCause ≠ .unknownField name
      · refine Or.inl ⟨hknown, herror.cause.resolve_right ?_⟩
        rintro ⟨name, _, hname, _⟩
        exact hknown name hname
      · push Not at hknown
        obtain ⟨name, hname⟩ := hknown
        obtain ⟨another, hanother⟩ : ∃ another, again.rootCause = .unknownField another := by
          rcases herror.cause with hsame | ⟨_, another, _, hanother⟩
          · exact ⟨name, hsame ▸ hname⟩
          · exact ⟨another, hanother⟩
        exact Or.inr ⟨name, another, hname, hanother, firstUndeclared_of_read hleft hname,
          firstUndeclared_of_read hright hanother⟩

end Shape

namespace Stalls

open Registry Shape

/-- What a stall sells, by its kind. -/
def goods : OneOf where
  field := "kind"
  kind := .string
  variants := [(.string "fruit", { id := "Fruit" }), (.string "cheese", { id := "Cheese" })]
  uniform := by decide
  distinct := by decide

/-- A stall has a sign that nobody looks at. -/
def stall : ObjectShape where
  id := "Stall"
  properties := [("goods", { shape := .list (.oneOf goods) }), ("sign", { shape := .any })]

/-- Fruit is sold by weight or by the piece. -/
def fruit : ObjectShape where
  id := "Fruit"
  properties := [
    ("weight", { shape := .float, requiredIfNot := ["pieces"], conflicts := ["pieces"] }),
    ("pieces", { shape := .int })]

def cheese : ObjectShape where
  id := "Cheese"
  properties := [("kind", { shape := .string }), ("age", { shape := .int, default := some (.ofInt64 3) })]

def stalls : Scope := ⟨0, "Stall", [stall, fruit, cheese].map (bindObject 0)⟩

def registry : Registry := ⟨1, [stalls]⟩

def given : Json := .object [
  ("goods", .array [
    .object [("kind", .string "fruit"), ("pieces", .ofInt64 2)],
    .object [("age", .ofInt64 1), ("kind", .string "cheese")]]),
  ("sign", .object [("text", .string "ripe"), ("lit", .bool true)])]

def shuffled : Json := .object [
  ("sign", .object [("lit", .bool true), ("text", .string "ripe")]),
  ("goods", .array [
    .object [("pieces", .ofInt64 2), ("kind", .string "fruit")],
    .object [("kind", .string "cheese"), ("age", .ofInt64 1)]])]

/-- Fruit with two entries that are not declared. -/
def spoiled : Json := .object [("goods", .array [.object [
  ("ripe", .bool true), ("kind", .string "fruit"), ("origin", .string "Kent")]])]

def spoiledShuffled : Json := .object [("goods", .array [.object [
  ("origin", .string "Kent"), ("ripe", .bool true), ("kind", .string "fruit")]])]

/-- A stall reads alike in either order, and the spoiled fruit is found at the same place, for the entry that
comes first. -/
theorem read_of_reordered_stall :
    given.Reordered shuffled ∧ spoiled.Reordered spoiledShuffled ∧
    (∃ value again, (read registry (.scope stalls) given).result = .ok value ∧
      (read registry (.scope stalls) shuffled).result = .ok again ∧ value.Reordered again) ∧
    ∃ error again, (read registry (.scope stalls) spoiled).result = .error (.failed error) ∧
      (read registry (.scope stalls) spoiledShuffled).result = .error (.failed again) ∧
      error.path = ["goods", "0"] ∧ again.path = ["goods", "0"] ∧
      error.rootCause = .unknownField "ripe" ∧ again.rootCause = .unknownField "origin" ∧
      FirstUndeclared registry (.scope stalls) spoiled error.path "ripe" ∧
      FirstUndeclared registry (.scope stalls) spoiledShuffled again.path "origin" := by
  have hgiven : given.Reordered shuffled := by
    refine Json.Distinct.reordered_of_same ?_ rfl
    simp [given, Json.ofInt64, Fields.Distinct, Fields.names]
  have hspoiled : spoiled.Reordered spoiledShuffled := by
    refine Json.Distinct.reordered_of_same ?_ rfl
    simp [spoiled, Fields.Distinct, Fields.names]
  refine ⟨hgiven, hspoiled, ?_, ?_⟩
  · rcases read_of_reordered registry (.scope stalls) hgiven with
      hread | ⟨_, _, hfailed, _⟩ | ⟨hfailed, _⟩
    · exact hread
    · cases hfailed
    · cases hfailed
  · rcases read_of_reordered registry (.scope stalls) hspoiled with
      ⟨_, _, hread, _⟩ | ⟨error, again, hleft, hright, hpath, ⟨hknown, _⟩ | hfirst⟩ | ⟨hfailed, _⟩
    · cases hread
    · cases hleft
      exact absurd rfl (hknown "ripe")
    · obtain ⟨_, _, hname, hanother, hfirst, hsecond⟩ := hfirst
      cases hleft
      cases hright
      cases hname
      cases hanother
      exact ⟨_, _, rfl, rfl, rfl, rfl, rfl, rfl, hfirst, hsecond⟩
    · cases hfailed

end Stalls

end Shapes
