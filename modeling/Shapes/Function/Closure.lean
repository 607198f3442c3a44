import Shapes.Function.Handler

/-!
Handlers from plain functions. The signature is read off the native types of the parameters and of
the result, so such a handler always returns what its signature says.
-/

namespace Shapes

/-- The forms a result may have: with or without a data value, and with or without an error. -/
inductive ResultForm : Type 1 where
  | nothing
  | fallible
  | value (native : NativeType)
  | fallibleValue (native : NativeType)

namespace ResultForm

/-- The Lean type of results of this form. -/
def Result : ResultForm → Type
  | .nothing => Unit
  | .fallible => Except String Unit
  | .value native => native.Carrier
  | .fallibleValue native => Except String native.Carrier

/-- The places of the return list. -/
def slots : ResultForm → List Slot
  | .nothing => []
  | .fallible => [.error]
  | .value native => [.value native.representation]
  | .fallibleValue native => [.value native.representation, .error]

/-- The return list for a result. A failure returns `null` in place of the data value. -/
def returns : (form : ResultForm) → form.Result → List Returned
  | .nothing, _ => []
  | .fallible, .ok _ => [.error none]
  | .fallible, .error text => [.error (some text)]
  | .value native, a => [.value (native.toValue a)]
  | .fallibleValue native, .ok a => [.value (native.toValue a), .error none]
  | .fallibleValue _, .error text => [.value .null, .error (some text)]

end ResultForm

/-- Functions of the given parameters, one after the other. -/
def Closure : List NativeType → Type → Type
  | [], ρ => ρ
  | native :: rest, ρ => native.Carrier → Closure rest ρ

namespace Closure

variable {ρ : Type}

/-- Applies a function to arguments, the first of which has index `index`. Arguments beyond the
parameters are ignored. -/
def apply : (parameters : List NativeType) → Closure parameters ρ → Nat → List Value →
    Except ArgumentError ρ
  | [], result, _, _ => .ok result
  | native :: _, _, index, [] =>
    .error ⟨index, .invalidInput native.representation.text "no argument"⟩
  | native :: rest, f, index, argument :: others =>
    match native.ofValue argument with
    | .error cause => .error ⟨index, cause⟩
    | .ok a => apply rest (f a) (index + 1) others

end Closure

namespace Handler

/-- The handler that runs a function, which holds the shapes it has captured. -/
def ofClosure (parameters : List NativeType) (form : ResultForm)
    (f : Closure parameters form.Result) (held : List Shape := []) : Handler where
  signature := ⟨parameters.map NativeType.representation, form.slots⟩
  invoke arguments := (f.apply parameters 0 arguments).map form.returns
  held := held

end Handler

end Shapes
