import Shapes.Event

/-!
Computations that announce events and end with a value or an error. The events up to an error are
kept. A computation with a budget may also end because the budget ran out.
-/

namespace Shapes

/-- What a computation announced, in order, and how it ended. -/
structure Traced (ε α : Type) where
  events : List Event
  result : Except ε α

/-- Why a computation with a budget ended without a value. -/
inductive Stop (ε : Type) where
  | failed (error : ε)
  | unfinished
deriving DecidableEq

namespace Stop

def map {ε ε' : Type} (f : ε → ε') : Stop ε → Stop ε'
  | .failed error => .failed (f error)
  | .unfinished => .unfinished

end Stop

namespace Traced

variable {ε ε' α β : Type}

def fail (error : ε) : Traced ε α :=
  ⟨[], .error error⟩

def announce (event : Event) : Traced ε Unit :=
  ⟨[event], .ok ()⟩

/-- Ends with a result that needed no announcement. -/
def ofExcept (result : Except ε α) : Traced ε α :=
  ⟨[], result⟩

/-- Goes on with the value, if there is one. -/
def andThen (x : Traced ε α) (f : α → Traced ε β) : Traced ε β :=
  match x.result with
  | .error error => ⟨x.events, .error error⟩
  | .ok a => ⟨x.events ++ (f a).events, (f a).result⟩

instance : Monad (Traced ε) where
  pure a := ⟨[], .ok a⟩
  bind := andThen

def mapError (f : ε → ε') (x : Traced ε α) : Traced ε' α :=
  ⟨x.events, x.result.mapError f⟩

/-- The same computation among those with a budget. -/
def budgeted (x : Traced ε α) : Traced (Stop ε) α :=
  x.mapError .failed

/-- Applies `f` to the items of a list from left to right, up to the first error. -/
def traverse (f : α → Traced ε β) : List α → Traced ε (List β)
  | [] => pure []
  | a :: rest => do
    let b ← f a
    let bs ← traverse f rest
    return b :: bs

/-- Applies `f` to the items of a list with their indices, the first of which is `index`. -/
def traverseFrom (f : Nat → α → Traced ε β) : Nat → List α → Traced ε (List β)
  | _, [] => pure []
  | index, a :: rest => do
    let b ← f index a
    let bs ← traverseFrom f (index + 1) rest
    return b :: bs

@[ext] theorem ext {x y : Traced ε α} (hevents : x.events = y.events)
    (hresult : x.result = y.result) : x = y := by
  cases x; cases y; simp_all

@[simp] theorem events_pure (a : α) : (pure a : Traced ε α).events = [] := rfl

@[simp] theorem result_pure (a : α) : (pure a : Traced ε α).result = .ok a := rfl

@[simp] theorem events_fail (error : ε) : (fail error : Traced ε α).events = [] := rfl

@[simp] theorem result_fail (error : ε) : (fail error : Traced ε α).result = .error error := rfl

@[simp] theorem events_announce (event : Event) :
    (announce event : Traced ε Unit).events = [event] := rfl

@[simp] theorem result_announce (event : Event) :
    (announce event : Traced ε Unit).result = .ok () := rfl

theorem result_bind (x : Traced ε α) (f : α → Traced ε β) :
    (x >>= f).result = x.result.bind fun a => (f a).result := by
  show (andThen x f).result = _
  unfold andThen
  cases x.result <;> rfl

theorem result_bind_eq_ok {x : Traced ε α} {f : α → Traced ε β} {b : β} :
    (x >>= f).result = .ok b ↔ ∃ a, x.result = .ok a ∧ (f a).result = .ok b := by
  rw [result_bind]
  cases x.result <;> simp [Except.bind]

theorem result_bind_eq_error {x : Traced ε α} {f : α → Traced ε β} {error : ε} :
    (x >>= f).result = .error error ↔
      x.result = .error error ∨ ∃ a, x.result = .ok a ∧ (f a).result = .error error := by
  rw [result_bind]
  cases x.result <;> simp [Except.bind]

theorem traverseFrom_congr {f g : Nat → α → Traced ε β} {items : List α} {index : Nat}
    (hagree : ∀ i, ∀ a ∈ items, f i a = g i a) :
    traverseFrom f index items = traverseFrom g index items := by
  induction items generalizing index with
  | nil => rfl
  | cons a rest ih =>
    rw [traverseFrom, traverseFrom, hagree index a (by simp),
      ih fun i b hb => hagree i b (by simp [hb])]

instance : LawfulMonad (Traced ε) := by
  refine LawfulMonad.mk' (Traced ε) ?_ ?_ ?_
  · intro α x
    apply ext
    · show (andThen x _).events = _
      unfold andThen
      split <;> simp
    · show (andThen x _).result = _
      unfold andThen
      split <;> simp_all
  · intro α β a f
    exact ext rfl rfl
  · intro α β γ x f g
    show andThen (andThen x f) g = andThen x fun a => andThen (f a) g
    unfold andThen
    cases x.result with
    | error error => rfl
    | ok a =>
      dsimp only
      cases (f a).result <;> simp

end Traced

end Shapes
