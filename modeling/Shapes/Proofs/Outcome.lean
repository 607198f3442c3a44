import Mathlib.Data.List.Forall2
import Shapes.Traced

/-!
Outcomes of computations: when a traversal succeeds and with what, and which errors a computation
may end with.
-/

namespace Shapes.Traced

variable {ε ε' α β : Type}

theorem bind_of_ok {x : Traced ε α} {f : α → Traced ε β} {a : α} (hok : x.result = .ok a) :
    x >>= f = ⟨x.events ++ (f a).events, (f a).result⟩ := by
  show andThen x f = _
  rw [andThen, hok]

theorem bind_of_error {x : Traced ε α} {f : α → Traced ε β} {error : ε}
    (herror : x.result = .error error) : x >>= f = ⟨x.events, .error error⟩ := by
  show andThen x f = _
  rw [andThen, herror]

theorem result_mapError_eq_ok {f : ε → ε'} {x : Traced ε α} {a : α} :
    (x.mapError f).result = .ok a ↔ x.result = .ok a := by
  unfold mapError
  cases x.result with
  | ok b =>
    constructor <;>
    · intro hok
      cases hok
      rfl
  | error cause =>
    constructor <;>
    · intro hok
      cases hok

theorem result_mapError_eq_error {f : ε → ε'} {x : Traced ε α} {error : ε'} :
    (x.mapError f).result = .error error ↔ ∃ cause, x.result = .error cause ∧ f cause = error := by
  unfold mapError
  constructor
  · intro herror
    cases hresult : x.result with
    | ok b =>
      rw [hresult] at herror
      cases herror
    | error cause =>
      rw [hresult] at herror
      exact ⟨cause, rfl, Except.error.inj herror⟩
  · rintro ⟨cause, hcause, rfl⟩
    rw [hcause]
    rfl

theorem result_map_eq_ok {f : α → β} {x : Traced ε α} {b : β} :
    (f <$> x).result = .ok b ↔ ∃ a, x.result = .ok a ∧ f a = b := by
  rw [← bind_pure_comp, result_bind_eq_ok]
  simp

/-- A traversal succeeds iff it succeeds at every item, and then it gives what it gives at the
items. -/
theorem traverse_eq_ok_iff [Inhabited β] {f : α → Traced ε β} {items : List α} {bs : List β} :
    (traverse f items).result = .ok bs ↔
      ∃ g : α → β, bs = items.map g ∧ ∀ a ∈ items, (f a).result = .ok (g a) := by
  constructor
  · intro hok
    let g : α → β := fun a => (f a).result.toOption.getD default
    refine ⟨g, ?_⟩
    induction items generalizing bs with
    | nil =>
      simp only [traverse, result_pure, Except.ok.injEq] at hok
      simp [← hok]
    | cons a rest ih =>
      simp only [traverse, result_bind_eq_ok, result_pure, Except.ok.injEq] at hok
      obtain ⟨b, hb, others, hothers, rfl⟩ := hok
      obtain ⟨hrest, hmem⟩ := ih hothers
      have hg : g a = b := by simp [g, hb, Except.toOption]
      simp only [List.map_cons, hg, ← hrest, List.mem_cons, true_and]
      rintro item (rfl | hitem)
      · rw [hg, hb]
      · exact hmem item hitem
  · rintro ⟨g, rfl, hmem⟩
    induction items with
    | nil => rfl
    | cons a rest ih =>
      have hrest := ih fun item hitem => hmem item (by simp [hitem])
      simp only [traverse, result_bind_eq_ok, result_pure]
      exact ⟨g a, hmem a (by simp), rest.map g, hrest, rfl⟩

/-- The indices of a traversal that only serve to place errors do not matter to its success. -/
theorem traverseFrom_mapError_eq_ok {f : α → Traced ε β} {place : Nat → ε → ε'} {items : List α}
    {index : Nat} {bs : List β} :
    (traverseFrom (fun i a => (f a).mapError (place i)) index items).result = .ok bs ↔
      (traverse f items).result = .ok bs := by
  induction items generalizing index bs with
  | nil => simp [traverse, traverseFrom]
  | cons a rest ih =>
    simp only [traverse, traverseFrom, result_bind_eq_ok, result_mapError_eq_ok, ih, result_pure,
      Except.ok.injEq]

/-- A traversal succeeds iff it succeeds at every item, and gives what it gives there in order. -/
theorem traverseFrom_mapError_eq_ok_iff {f : α → Traced ε β} {place : Nat → ε → ε'} {items : List α}
    {index : Nat} {bs : List β} :
    (traverseFrom (fun i a => (f a).mapError (place i)) index items).result = .ok bs ↔
      List.Forall₂ (fun a b => (f a).result = .ok b) items bs := by
  induction items generalizing index bs with
  | nil =>
    rw [List.forall₂_nil_left_iff, traverseFrom, result_pure, Except.ok.injEq]
    exact eq_comm
  | cons a rest ih =>
    simp only [traverseFrom, result_bind_eq_ok, result_mapError_eq_ok, ih, result_pure,
      Except.ok.injEq, List.forall₂_cons_left_iff]
    constructor
    · rintro ⟨b, hb, others, hothers, rfl⟩
      exact ⟨b, others, hb, hothers, rfl⟩
    · rintro ⟨b, others, hb, hothers, rfl⟩
      exact ⟨b, hb, others, hothers, rfl⟩

/-- A traversal fails as it fails at the first item where it does, placed at the index of that item. -/
theorem traverseFrom_mapError_eq_error_iff {f : α → Traced ε β} {place : Nat → ε → ε'}
    {items : List α} {index : Nat} {error : ε'} :
    (traverseFrom (fun i a => (f a).mapError (place i)) index items).result = .error error ↔
      ∃ offset a cause, items[offset]? = some a ∧ (f a).result = .error cause ∧
        (∀ earlier ∈ items.take offset, ∃ b, (f earlier).result = .ok b) ∧
        place (index + offset) cause = error := by
  induction items generalizing index with
  | nil => simp [traverseFrom]
  | cons a rest ih =>
    simp only [traverseFrom, result_bind_eq_error, result_mapError_eq_error, result_mapError_eq_ok,
      result_pure, reduceCtorEq, and_false, exists_false, or_false, ih]
    constructor
    · rintro (⟨cause, hcause, rfl⟩ | ⟨b, hb, offset, item, cause, hitem, hcause, hearlier, rfl⟩)
      · exact ⟨0, a, cause, rfl, hcause, by simp, rfl⟩
      · refine ⟨offset + 1, item, cause, hitem, hcause, ?_, congrArg (place · cause) (by omega)⟩
        rw [List.take_succ_cons, List.forall_mem_cons]
        exact ⟨⟨b, hb⟩, hearlier⟩
    · rintro ⟨offset, item, cause, hitem, hcause, hearlier, rfl⟩
      cases offset with
      | zero =>
        cases hitem
        exact Or.inl ⟨cause, hcause, rfl⟩
      | succ offset =>
        rw [List.take_succ_cons, List.forall_mem_cons] at hearlier
        obtain ⟨⟨b, hb⟩, hothers⟩ := hearlier
        exact Or.inr ⟨b, hb, offset, item, cause, hitem, hcause, hothers,
          congrArg (place · cause) (by omega)⟩

private theorem traverseFrom_mapError_id (f : α → Traced ε β) (index : Nat) (items : List α) :
    traverseFrom (fun _ a => (f a).mapError id) index items = traverse f items := by
  induction items generalizing index with
  | nil => rfl
  | cons a rest ih =>
    have hsame : (f a).mapError id = f a := by
      unfold mapError
      cases hresult : (f a).result <;> exact ext rfl hresult.symm
    rw [traverseFrom, traverse, ih, hsame]

/-- A traversal fails as it fails at the first item where it does. -/
theorem traverse_eq_error_iff {f : α → Traced ε β} {items : List α} {error : ε} :
    (traverse f items).result = .error error ↔ ∃ index a, items[index]? = some a ∧
      (f a).result = .error error ∧ ∀ earlier ∈ items.take index, ∃ b, (f earlier).result = .ok b := by
  rw [← traverseFrom_mapError_id f 0, traverseFrom_mapError_eq_error_iff]
  constructor
  · rintro ⟨index, a, cause, hitem, hcause, hearlier, rfl⟩
    exact ⟨index, a, hitem, hcause, hearlier⟩
  · rintro ⟨index, a, hitem, herror, hearlier⟩
    exact ⟨index, a, error, hitem, herror, hearlier, rfl⟩

/-- Every error the computation may end with is of the given sort. -/
def FailsOnly (sort : ε → Prop) (x : Traced ε α) : Prop :=
  ∀ error, x.result = .error error → sort error

namespace FailsOnly

variable {sort : ε → Prop}

theorem pure (a : α) : FailsOnly sort (Pure.pure a : Traced ε α) := by
  intro error herror
  cases herror

theorem fail {error : ε} (hsort : sort error) : FailsOnly sort (Traced.fail error : Traced ε α) := by
  intro actual hactual
  cases hactual
  exact hsort

theorem announce (event : Event) : FailsOnly sort (Traced.announce event : Traced ε Unit) := by
  intro error herror
  cases herror

theorem bind {x : Traced ε α} {f : α → Traced ε β} (hx : FailsOnly sort x)
    (hf : ∀ a, x.result = .ok a → FailsOnly sort (f a)) : FailsOnly sort (x >>= f) := by
  intro error herror
  rcases result_bind_eq_error.1 herror with hfirst | ⟨a, ha, hsecond⟩
  · exact hx error hfirst
  · exact hf a ha error hsecond

theorem mapError {sort' : ε' → Prop} {f : ε → ε'} {x : Traced ε α} (hx : FailsOnly sort x)
    (hf : ∀ error, sort error → sort' (f error)) : FailsOnly sort' (x.mapError f) := by
  intro error herror
  obtain ⟨cause, hcause, rfl⟩ := result_mapError_eq_error.1 herror
  exact hf cause (hx cause hcause)

theorem traverse {f : α → Traced ε β} {items : List α} (hf : ∀ a ∈ items, FailsOnly sort (f a)) :
    FailsOnly sort (Traced.traverse f items) := by
  induction items with
  | nil => exact pure []
  | cons a rest ih =>
    have hrest := ih fun item hitem => hf item (by simp [hitem])
    refine bind (hf a (by simp)) fun b _ => bind hrest ?_
    intro bs _
    exact pure (b :: bs)

theorem traverseFrom {f : Nat → α → Traced ε β} {items : List α} {index : Nat}
    (hf : ∀ i, ∀ a ∈ items, FailsOnly sort (f i a)) :
    FailsOnly sort (Traced.traverseFrom f index items) := by
  induction items generalizing index with
  | nil => exact pure []
  | cons a rest ih =>
    have hrest : FailsOnly sort (Traced.traverseFrom f (index + 1) rest) :=
      ih fun i item hitem => hf i item (by simp [hitem])
    refine bind (hf index a (by simp)) fun b _ => bind hrest ?_
    intro bs _
    exact pure (b :: bs)

end FailsOnly

end Shapes.Traced
