import Shapes.Proofs.Scope.Ownership

/-!
Which handlers fit a declaration. A handler that does not fit is refused for one reason: the number of its
parameters, else the first parameter that differs, else its return list.
-/

namespace Shapes

namespace Output

/-- The return lists that a declared output asks for: an error return at most, or a data value that an error
return may follow, and has to follow if the shape of the value is not known beforehand. -/
inductive Fits : Output → List Slot → Prop
  | nothing : Fits .nothing []
  | onlyError : Fits .nothing [.error]
  | value {shape : Shape} : Fits (.fixed shape) [.value shape.representation]
  | fallibleValue {shape : Shape} : Fits (.fixed shape) [.value shape.representation, .error]
  | resolvedValue {resolver : Resolver} {returned : Representation} :
      Fits (.dynamic resolver) [.value returned, .error]

/-- What is wrong with a return list that a declared output does not ask for. -/
inductive Faults : Output → List Slot → SignatureMismatch → Prop
  | unaskedValue {returned : Representation} : Faults .nothing [.value returned] (.nonError 0)
  | unasked {slots : List Slot} (hmany : 2 ≤ slots.length) :
      Faults .nothing slots (.returns "no return value or a single error return" slots.length)
  | otherValue {shape : Shape} {returned : Representation} {rest : List Slot}
      (hrest : rest = [] ∨ rest = [.error]) (hdiffers : returned ≠ shape.representation) :
      Faults (.fixed shape) (.value returned :: rest) (.output shape.representation returned)
  | secondValue {output : Output} {first second : Representation} (hdata : output.dataCount = 1) :
      Faults output [.value first, .value second] (.nonError 1)
  | onlyError {shape : Shape} : Faults (.fixed shape) [.error] (.nonValue 0)
  | leadingError {output : Output} {second : Slot} (hdata : output.dataCount = 1) :
      Faults output [.error, second] (.nonValue 0)
  | miscounted {shape : Shape} {slots : List Slot} (hcount : slots = [] ∨ 3 ≤ slots.length) :
      Faults (.fixed shape) slots
        (.returns "one return value, optionally followed by an error return" slots.length)
  | notTwo {resolver : Resolver} {slots : List Slot} (hcount : slots.length ≠ 2) :
      Faults (.dynamic resolver) slots (.returns "a value and an error return" slots.length)

variable {output : Output} {slots : List Slot} {mismatch : SignatureMismatch}

theorem mismatch?_of_fits (hfits : output.Fits slots) : output.mismatch? slots = none := by
  cases hfits with
  | value => exact if_pos rfl
  | fallibleValue => exact if_pos rfl
  | _ => rfl

theorem mismatch?_of_faults (hfaults : output.Faults slots mismatch) :
    output.mismatch? slots = some mismatch := by
  cases hfaults with
  | unaskedValue => rfl
  | onlyError => rfl
  | unasked hmany =>
    match slots, hmany with
    | first :: _ :: _, _ => cases first <;> rfl
  | otherValue hrest hdiffers =>
    rcases hrest with rfl | rfl <;> exact if_neg hdiffers
  | secondValue hdata =>
    cases output with
    | nothing => cases hdata
    | _ => rfl
  | leadingError hdata =>
    cases output with
    | nothing => cases hdata
    | _ => rfl
  | miscounted hcount =>
    rcases hcount with rfl | hmany
    · rfl
    · match slots, hmany with
      | first :: second :: _ :: _, _ => cases first <;> cases second <;> rfl
  | notTwo hcount =>
    match slots, hcount with
    | [], _ => rfl
    | [only], _ => cases only <;> rfl
    | first :: second :: _ :: _, _ => cases first <;> cases second <;> rfl

/-- Every return list is asked for or has something wrong with it. -/
theorem fits_or_faults (output : Output) (slots : List Slot) :
    output.Fits slots ∨ ∃ mismatch, output.Faults slots mismatch := by
  cases output with
  | nothing =>
    match slots with
    | [] => exact Or.inl .nothing
    | [.error] => exact Or.inl .onlyError
    | [.value _] => exact Or.inr ⟨_, .unaskedValue⟩
    | _ :: _ :: _ => exact Or.inr ⟨_, .unasked (by simp)⟩
  | fixed shape =>
    match slots with
    | [] => exact Or.inr ⟨_, .miscounted (Or.inl rfl)⟩
    | [.error] => exact Or.inr ⟨_, .onlyError⟩
    | [.error, _] => exact Or.inr ⟨_, .leadingError rfl⟩
    | [.value _, .value _] => exact Or.inr ⟨_, .secondValue rfl⟩
    | _ :: _ :: _ :: _ => exact Or.inr ⟨_, .miscounted (Or.inr (by simp))⟩
    | [.value returned] =>
      by_cases hsame : returned = shape.representation
      · exact Or.inl (hsame ▸ .value)
      · exact Or.inr ⟨_, .otherValue (Or.inl rfl) hsame⟩
    | [.value returned, .error] =>
      by_cases hsame : returned = shape.representation
      · exact Or.inl (hsame ▸ .fallibleValue)
      · exact Or.inr ⟨_, .otherValue (Or.inr rfl) hsame⟩
  | dynamic resolver =>
    match slots with
    | [] => exact Or.inr ⟨_, .notTwo (by simp)⟩
    | [_] => exact Or.inr ⟨_, .notTwo (by simp)⟩
    | [.error, _] => exact Or.inr ⟨_, .leadingError rfl⟩
    | [.value _, .value _] => exact Or.inr ⟨_, .secondValue rfl⟩
    | [.value _, .error] => exact Or.inl .resolvedValue
    | _ :: _ :: _ :: _ => exact Or.inr ⟨_, .notTwo (by simp)⟩

theorem mismatch?_eq_none_iff : output.mismatch? slots = none ↔ output.Fits slots := by
  refine ⟨fun hnone => ?_, mismatch?_of_fits⟩
  rcases output.fits_or_faults slots with hfits | ⟨mismatch, hfaults⟩
  · exact hfits
  · rw [mismatch?_of_faults hfaults] at hnone
    cases hnone

theorem mismatch?_eq_some_iff : output.mismatch? slots = some mismatch ↔ output.Faults slots mismatch := by
  refine ⟨fun hsome => ?_, mismatch?_of_faults⟩
  rcases output.fits_or_faults slots with hfits | ⟨other, hfaults⟩
  · rw [mismatch?_of_fits hfits] at hsome
    cases hsome
  · rw [mismatch?_of_faults hfaults] at hsome
    cases hsome
    exact hfaults

end Output

namespace Signature

/-- The signature takes what is declared as inputs and returns what the declared output asks for. -/
structure Fits (signature : Signature) (inputs : List Shape) (output : Output) : Prop where
  parameters : signature.inputs = inputs.map Shape.representation
  returns : output.Fits signature.outputs

/-- What is wrong with a signature that does not fit. The parameters are looked at only if their number is
right, and the return list only if all parameters are. -/
inductive Faults (signature : Signature) (inputs : List Shape) (output : Output) :
    SignatureMismatch → Prop
  | arity (hdiffers : signature.inputs.length ≠ inputs.length) :
      signature.Faults inputs output (.arity inputs.length signature.inputs.length)
  | parameter {index : Nat} {declared : Shape} {taken : Representation}
      (hcount : signature.inputs.length = inputs.length) (hdeclared : inputs[index]? = some declared)
      (htaken : signature.inputs[index]? = some taken) (hdiffers : declared.representation ≠ taken)
      (hearlier : signature.inputs.take index = (inputs.take index).map Shape.representation) :
      signature.Faults inputs output (.parameter index declared.representation taken)
  | returns {mismatch : SignatureMismatch}
      (hparameters : signature.inputs = inputs.map Shape.representation)
      (hreturns : output.Faults signature.outputs mismatch) : signature.Faults inputs output mismatch

variable {inputs : List Shape} {taken : List Representation} {index : Nat}
  {mismatch : SignatureMismatch}

theorem parameterMismatch?_eq_none_iff (hcount : taken.length = inputs.length) :
    parameterMismatch? index inputs taken = none ↔ taken = inputs.map Shape.representation := by
  induction inputs generalizing taken index with
  | nil =>
    obtain rfl := List.length_eq_zero_iff.1 hcount
    exact iff_of_true rfl rfl
  | cons declared rest ih =>
    match taken, hcount with
    | first :: others, hcount =>
      rw [parameterMismatch?, List.map_cons, List.cons.injEq, eq_comm (a := first)]
      split
      · rename_i hsame
        rw [ih (Nat.succ.inj hcount), and_iff_right hsame]
      · rename_i hdiffers
        simp [hdiffers]

/-- Of several parameters that differ the first is reported. -/
theorem parameterMismatch?_eq_some_iff (hcount : taken.length = inputs.length) :
    parameterMismatch? index inputs taken = some mismatch ↔
      ∃ offset declared first, inputs[offset]? = some declared ∧ taken[offset]? = some first ∧
        declared.representation ≠ first ∧
        taken.take offset = (inputs.take offset).map Shape.representation ∧
        mismatch = .parameter (index + offset) declared.representation first := by
  induction inputs generalizing taken index with
  | nil => simp [parameterMismatch?]
  | cons declared rest ih =>
    match taken, hcount with
    | first :: others, hcount =>
      rw [parameterMismatch?]
      split
      · rename_i hsame
        rw [ih (Nat.succ.inj hcount)]
        constructor
        · rintro ⟨offset, shape, other, hshape, hother, hdiffers, hearlier, rfl⟩
          refine ⟨offset + 1, shape, other, hshape, hother, hdiffers, ?_, ?_⟩
          · rw [List.take_succ_cons, List.take_succ_cons, List.map_cons, hearlier, hsame]
          · rw [Nat.add_assoc, Nat.add_comm 1]
        · rintro ⟨offset, shape, other, hshape, hother, hdiffers, hearlier, rfl⟩
          cases offset with
          | zero =>
            cases hshape
            cases hother
            exact absurd hsame hdiffers
          | succ offset =>
            rw [List.take_succ_cons, List.take_succ_cons, List.map_cons, List.cons.injEq] at hearlier
            refine ⟨offset, shape, other, hshape, hother, hdiffers, hearlier.2, ?_⟩
            rw [Nat.add_assoc, Nat.add_comm 1]
      · rename_i hdiffers
        constructor
        · intro hsome
          cases hsome
          exact ⟨0, declared, first, rfl, rfl, hdiffers, rfl, rfl⟩
        · rintro ⟨offset, shape, other, hshape, hother, _, hearlier, rfl⟩
          cases offset with
          | zero =>
            cases hshape
            cases hother
            rfl
          | succ offset =>
            rw [List.take_succ_cons, List.take_succ_cons, List.map_cons, List.cons.injEq] at hearlier
            exact absurd hearlier.1.symm hdiffers

variable {signature : Signature} {output : Output}

theorem mismatch?_eq_none_iff : signature.mismatch? inputs output = none ↔ signature.Fits inputs output := by
  unfold mismatch?
  split
  · rename_i hcount
    rw [Option.or_eq_none_iff, parameterMismatch?_eq_none_iff hcount, Output.mismatch?_eq_none_iff]
    exact ⟨fun hboth => ⟨hboth.1, hboth.2⟩, fun hfits => ⟨hfits.parameters, hfits.returns⟩⟩
  · rename_i hcount
    refine iff_of_false nofun fun hfits => hcount ?_
    rw [hfits.parameters, List.length_map]

theorem mismatch?_eq_some_iff :
    signature.mismatch? inputs output = some mismatch ↔ signature.Faults inputs output mismatch := by
  unfold mismatch?
  split
  · rename_i hcount
    rw [Option.or_eq_some_iff, parameterMismatch?_eq_some_iff hcount,
      parameterMismatch?_eq_none_iff hcount, Output.mismatch?_eq_some_iff]
    constructor
    · rintro (⟨offset, declared, first, hdeclared, hfirst, hdiffers, hearlier, rfl⟩ |
        ⟨hparameters, hreturns⟩)
      · rw [Nat.zero_add]
        exact .parameter hcount hdeclared hfirst hdiffers hearlier
      · exact .returns hparameters hreturns
    · intro hfaults
      cases hfaults with
      | arity hdiffers => exact absurd hcount hdiffers
      | @parameter offset declared first _ hdeclared hfirst hdiffers hearlier =>
        exact Or.inl ⟨offset, declared, first, hdeclared, hfirst, hdiffers, hearlier, by rw [Nat.zero_add]⟩
      | returns hparameters hreturns => exact Or.inr ⟨hparameters, hreturns⟩
  · rename_i hcount
    constructor
    · intro hsome
      cases hsome
      exact .arity hcount
    · intro hfaults
      cases hfaults with
      | arity _ => rfl
      | parameter hsame => exact absurd hsame hcount
      | returns hparameters => exact absurd (by rw [hparameters, List.length_map]) hcount

end Signature

namespace BoundFunction

variable {id : String} {inputs : List Shape} {output : Output} {label : Option Label} {handler : Handler}

/-- A function is bound exactly if the signature of its handler fits the declaration, and it is then what was
declared with that handler. Else binding fails with the one thing that is wrong with the signature: the number
of parameters, else the first parameter that differs, else the return list. -/
theorem bind_of_signature (f : BoundFunction) (error : BuildError) :
    ((bind id inputs output label handler).result = .ok f ↔
      handler.signature.Fits inputs output ∧ f = ⟨id, inputs, output, label, handler⟩) ∧
    ((bind id inputs output label handler).result = .error error ↔
      ∃ mismatch, handler.signature.Faults inputs output mismatch ∧ error = .signature id mismatch) := by
  constructor
  · rw [bind_eq_ok_iff, Signature.mismatch?_eq_none_iff]
  · simp only [← Signature.mismatch?_eq_some_iff]
    unfold bind
    cases handler.signature.mismatch? inputs output with
    | none =>
      refine iff_of_false nofun ?_
      rintro ⟨mismatch, hnone, -⟩
      cases hnone
    | some mismatch =>
      constructor
      · intro hbind
        cases hbind
        exact ⟨mismatch, rfl, rfl⟩
      · rintro ⟨_, hsome, rfl⟩
        cases hsome
        rfl

end BoundFunction

end Shapes
