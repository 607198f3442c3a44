import Shapes.Function.Closure
import Shapes.Proofs.Function.Returns
import Shapes.Proofs.Scope.Ownership

/-!
Functions bound from closures. The signature of such a handler and the list that it returns come from the
same result form, so what is checked at every call cannot fail: a call ends with what the closure gives, or
with an argument that does not convert, and then the closure does not run.
-/

namespace Shapes

namespace Closure

variable {ρ : Type}

/-- Native arguments, one for each parameter. -/
def Arguments : List NativeType → Type
  | [] => Unit
  | native :: rest => native.Carrier × Arguments rest

/-- What a function gives for native arguments. -/
def run : {parameters : List NativeType} → Closure parameters ρ → Arguments parameters → ρ
  | [], result, _ => result
  | _ :: _, f, (a, others) => run (f a) others

/-- Values that convert to native arguments, each to the one in its place. -/
inductive Converts : (parameters : List NativeType) → List Value → Arguments parameters → Prop
  | nil : Converts [] [] ()
  | cons {native : NativeType} {rest : List NativeType} {value : Value} {others : List Value}
      {a : native.Carrier} {natives : Arguments rest} (hvalue : native.ofValue value = .ok a)
      (hothers : Converts rest others natives) : Converts (native :: rest) (value :: others) (a, natives)

/-- The value at `index` does not convert, for the reason `cause`, and all values before it do. -/
structure FirstUnfit (parameters : List NativeType) (values : List Value) (index : Nat)
    (cause : DataError) : Prop where
  unfit : ∃ native value, parameters[index]? = some native ∧ values[index]? = some value ∧
    native.ofValue value = .error cause
  before : ∀ earlier < index, ∀ native value, parameters[earlier]? = some native →
    values[earlier]? = some value → ∃ a, native.ofValue value = .ok a

variable {native : NativeType} {parameters rest : List NativeType} {value : Value}
  {values others : List Value} {index : Nat} {cause : DataError}

theorem firstUnfit_zero_iff : FirstUnfit (native :: rest) (value :: others) 0 cause ↔
    native.ofValue value = .error cause := by
  constructor
  · rintro ⟨⟨_, _, hnative, hvalue, hcause⟩, _⟩
    cases hnative
    cases hvalue
    exact hcause
  · intro hcause
    exact ⟨⟨native, value, rfl, rfl, hcause⟩, fun earlier hearlier => by omega⟩

theorem firstUnfit_succ_iff : FirstUnfit (native :: rest) (value :: others) (index + 1) cause ↔
    (∃ a, native.ofValue value = .ok a) ∧ FirstUnfit rest others index cause := by
  constructor
  · rintro ⟨hunfit, hbefore⟩
    refine ⟨hbefore 0 (Nat.succ_pos index) native value rfl rfl, hunfit, fun earlier hearlier => ?_⟩
    exact hbefore (earlier + 1) (Nat.succ_lt_succ hearlier)
  · rintro ⟨hfirst, hunfit, hbefore⟩
    refine ⟨hunfit, fun earlier hearlier => ?_⟩
    cases earlier with
    | zero =>
      rintro _ _ ⟨⟩ ⟨⟩
      exact hfirst
    | succ earlier => exact hbefore earlier (Nat.lt_of_succ_lt_succ hearlier)

/-- All values convert, or there is a first one that does not. -/
theorem converts_or_firstUnfit (hcount : values.length = parameters.length) :
    (∃ natives, Converts parameters values natives) ∨
      ∃ index cause, FirstUnfit parameters values index cause := by
  induction parameters generalizing values with
  | nil =>
    obtain rfl := List.length_eq_zero_iff.1 hcount
    exact Or.inl ⟨(), .nil⟩
  | cons native rest ih =>
    obtain ⟨value, others, rfl⟩ := List.exists_cons_of_length_eq_add_one hcount
    cases hvalue : native.ofValue value with
    | error cause => exact Or.inr ⟨0, cause, firstUnfit_zero_iff.2 hvalue⟩
    | ok a =>
      rcases ih (Nat.succ.inj hcount) with ⟨natives, hothers⟩ | ⟨index, cause, hunfit⟩
      · exact Or.inl ⟨(a, natives), .cons hvalue hothers⟩
      · exact Or.inr ⟨index + 1, cause, firstUnfit_succ_iff.2 ⟨⟨a, hvalue⟩, hunfit⟩⟩

theorem Converts.length_eq {natives : Arguments parameters} (hconverts : Converts parameters values natives) :
    values.length = parameters.length := by
  induction hconverts with
  | nil => rfl
  | cons _ _ ih => exact congrArg Nat.succ ih

theorem apply_of_converts {natives : Arguments parameters} (hconverts : Converts parameters values natives)
    (f : Closure parameters ρ) (start : Nat) : f.apply parameters start values = .ok (f.run natives) := by
  induction hconverts generalizing start with
  | nil => rfl
  | cons hvalue _ ih =>
    rw [apply, hvalue]
    exact ih (f _) (start + 1)

/-- A value that does not convert stops the application, whatever the function would do. -/
theorem apply_of_firstUnfit (hunfit : FirstUnfit parameters values index cause)
    (f : Closure parameters ρ) (start : Nat) :
    f.apply parameters start values = .error ⟨start + index, cause⟩ := by
  induction parameters generalizing values index start with
  | nil =>
    obtain ⟨_, _, hnative, _⟩ := hunfit.unfit
    cases hnative
  | cons native rest ih =>
    cases values with
    | nil =>
      obtain ⟨_, _, _, hvalue, _⟩ := hunfit.unfit
      cases hvalue
    | cons value others =>
      cases index with
      | zero =>
        rw [apply, firstUnfit_zero_iff.1 hunfit]
        rfl
      | succ index =>
        obtain ⟨⟨a, hvalue⟩, hothers⟩ := firstUnfit_succ_iff.1 hunfit
        rw [apply, hvalue]
        simpa only [Nat.add_assoc, Nat.add_comm 1] using ih hothers (f a) (start + 1)

end Closure

namespace ResultForm

/-- What a result is to the caller: the data value, if the form has one, or the error. -/
def outcome : (form : ResultForm) → form.Result → Except String (Option Value)
  | .nothing, _ => .ok none
  | .fallible, .ok _ => .ok none
  | .fallible, .error text => .error text
  | .value native, a => .ok (some (native.toValue a))
  | .fallibleValue native, .ok a => .ok (some (native.toValue a))
  | .fallibleValue _, .error text => .error text

/-- The number of data values in a return list. -/
def dataCount : ResultForm → Nat
  | .nothing => 0
  | .fallible => 0
  | .value _ => 1
  | .fallibleValue _ => 1

/-- The ending that stands for an outcome. -/
def ending : Except String (Option Value) → Ending
  | .ok data => .returned data
  | .error text => .failed text

/-- The list that is returned for a result has the form that belongs to the outcome. -/
theorem endsAs_returns (form : ResultForm) (result : form.Result) :
    EndsAs form.dataCount (form.returns result) (ending (form.outcome result)) := by
  match form, result with
  | .nothing, _ => exact .returned (rfl : ([] : List Value).length = 0) (Or.inl rfl)
  | .fallible, .ok _ => exact .returned (rfl : ([] : List Value).length = 0) (Or.inr rfl)
  | .fallible, .error text => exact .failed (rfl : ([] : List Value).length = 0)
  | .value native, a => exact .returned (rfl : [native.toValue a].length = 1) (Or.inl rfl)
  | .fallibleValue native, .ok a => exact .returned (rfl : [native.toValue a].length = 1) (Or.inr rfl)
  | .fallibleValue _, .error text => exact .failed (rfl : [Value.null].length = 1)

/-- An output that the places of a form fit asks for as many data values as the form has. -/
theorem dataCount_of_mismatch?_eq_none {form : ResultForm} {output : Output}
    (hfits : output.mismatch? form.slots = none) : output.dataCount = form.dataCount := by
  cases output <;> cases form <;>
    first
    | rfl
    | cases hfits

end ResultForm

/-- How the call of a function from a closure may end. An argument that does not convert ends it without a
result of the closure. -/
inductive Closure.Ends {parameters : List NativeType} {form : ResultForm}
    (f : Closure parameters form.Result) (id : String) (arguments : List Value) :
    Except CallError (Option Value) → Prop
  | miscounted (hcount : arguments.length ≠ parameters.length) :
      f.Ends id arguments (.error (.arity id parameters.length arguments.length))
  | unfit {index : Nat} {cause : DataError} (hcount : arguments.length = parameters.length)
      (hunfit : FirstUnfit parameters arguments index cause) :
      f.Ends id arguments (.error (.argument id index cause))
  | failed {natives : Arguments parameters} {text : String}
      (hconverts : Converts parameters arguments natives)
      (hfailed : form.outcome (f.run natives) = .error text) :
      f.Ends id arguments (.error (.execution id text))
  | returned {natives : Arguments parameters} {value : Option Value}
      (hconverts : Converts parameters arguments natives)
      (hreturned : form.outcome (f.run natives) = .ok value) : f.Ends id arguments (.ok value)

/-- Every call ends in one of these ways. -/
theorem Closure.exists_ends {parameters : List NativeType} {form : ResultForm}
    (f : Closure parameters form.Result) (id : String) (arguments : List Value) :
    ∃ outcome, f.Ends id arguments outcome := by
  by_cases hcount : arguments.length = parameters.length
  · rcases converts_or_firstUnfit hcount with ⟨natives, hconverts⟩ | ⟨index, cause, hunfit⟩
    · cases hresult : form.outcome (f.run natives) with
      | error text => exact ⟨_, .failed hconverts hresult⟩
      | ok value => exact ⟨_, .returned hconverts hresult⟩
    · exact ⟨_, .unfit hcount hunfit⟩
  · exact ⟨_, .miscounted hcount⟩

namespace BoundFunction

variable {parameters : List NativeType} {form : ResultForm} {f : Closure parameters form.Result}
  {id : String} {inputs : List Shape} {output : Output} {label : Option Label} {bound : BoundFunction}
  {held : List Shape} {arguments : List Value} {outcome : Except CallError (Option Value)}

/-- What binding leaves to say of a function from a closure. -/
theorem bind_ofClosure_eq_ok
    (hbind : (bind id inputs output label (.ofClosure parameters form f held)).result = .ok bound) :
    bound = ⟨id, inputs, output, label, .ofClosure parameters form f held⟩ ∧
      inputs.length = parameters.length ∧ output.dataCount = form.dataCount := by
  obtain ⟨hfits, hbound⟩ := bind_eq_ok_iff.1 hbind
  unfold Signature.mismatch? at hfits
  split at hfits
  · rename_i hcount
    rw [Option.or_eq_none_iff] at hfits
    refine ⟨hbound, ?_, ResultForm.dataCount_of_mismatch?_eq_none hfits.2⟩
    simpa [Handler.ofClosure] using hcount.symm
  · cases hfits

/-- A native result of the closure decides the call. -/
theorem call_eq_of_converts {natives : Closure.Arguments parameters}
    (hbind : (bind id inputs output label (.ofClosure parameters form f held)).result = .ok bound)
    (hconverts : Closure.Converts parameters arguments natives) :
    (bound.call arguments).result = bound.outcome (ResultForm.ending (form.outcome (f.run natives))) := by
  obtain ⟨rfl, hcount, hdata⟩ := bind_ofClosure_eq_ok hbind
  refine (call_eq_outcome_iff _).2 ⟨?_, form.returns (f.run natives), ?_, ?_⟩
  · rw [hconverts.length_eq, hcount]
  · simp only [Handler.ofClosure, Closure.apply_of_converts hconverts, Except.map]
  · rw [hdata]
    exact form.endsAs_returns (f.run natives)

theorem call_eq_of_ends
    (hbind : (bind id inputs output label (.ofClosure parameters form f held)).result = .ok bound)
    (hends : f.Ends id arguments outcome) : (bound.call arguments).result = outcome := by
  obtain ⟨rfl, hcount, -⟩ := bind_ofClosure_eq_ok hbind
  cases hends with
  | miscounted hdiffers =>
    rw [← hcount] at hdiffers ⊢
    exact call_eq_arity_iff.2 hdiffers
  | @unfit index cause hsame hunfit =>
    refine call_eq_argument_iff.2 ⟨hsame.trans hcount.symm, ?_⟩
    simp only [Handler.ofClosure, Closure.apply_of_firstUnfit hunfit, Nat.zero_add, Except.map]
  | failed hconverts hfailed =>
    rw [call_eq_of_converts hbind hconverts, hfailed]
    rfl
  | returned hconverts hreturned =>
    rw [call_eq_of_converts hbind hconverts, hreturned]
    rfl

theorem call_eq_iff_ends
    (hbind : (bind id inputs output label (.ofClosure parameters form f held)).result = .ok bound) :
    (bound.call arguments).result = outcome ↔ f.Ends id arguments outcome := by
  constructor
  · rintro rfl
    obtain ⟨outcome, hends⟩ := f.exists_ends id arguments
    rwa [call_eq_of_ends hbind hends]
  · exact call_eq_of_ends hbind

/-- Whatever closure a function is bound from, and whatever is declared of it, a call ends in one of four
ways: the number of arguments is wrong; the first argument that does not convert is reported, and no closure
of these parameters would run; or the closure runs on the native arguments, and its error or its data value is
that of the call. There is a data value exactly if the function has an output. What is checked of a return list
at the call is never found wrong. -/
theorem call_of_closure
    (hbind : (bind id inputs output label (.ofClosure parameters form f held)).result = .ok bound) :
    (∀ arguments outcome, (bound.call arguments).result = outcome ↔ f.Ends id arguments outcome) ∧
    (∀ arguments index cause, (bound.call arguments).result = .error (.argument id index cause) →
      ∀ (ρ : Type) (body : Closure parameters ρ),
        body.apply parameters 0 arguments = .error ⟨index, cause⟩) ∧
    (∀ arguments value, (bound.call arguments).result = .ok value →
      (value.isSome = true ↔ output ≠ .nothing)) ∧
    ∀ arguments name,
      (∀ expected actual, (bound.call arguments).result ≠ .error (.returnCount name expected actual)) ∧
      (bound.call arguments).result ≠ .error (.invalidDataReturn name) ∧
      (bound.call arguments).result ≠ .error (.invalidErrorReturn name) := by
  refine ⟨fun arguments outcome => call_eq_iff_ends hbind, fun arguments index cause hcall ρ body => ?_,
    fun arguments value hcall => ?_, fun arguments name => ⟨fun expected actual hcall => ?_,
      fun hcall => ?_, fun hcall => ?_⟩⟩
  · cases (call_eq_iff_ends hbind).1 hcall with
    | unfit _ hunfit => simpa only [Nat.zero_add] using Closure.apply_of_firstUnfit hunfit body 0
  · obtain ⟨rfl, -⟩ := bind_ofClosure_eq_ok hbind
    exact ((call_eq_outcome_iff (.returned value)).1 hcall).isSome_iff
  all_goals cases (call_eq_iff_ends hbind).1 hcall

end BoundFunction

namespace Recipes

open NativeType

/-- The ingredients of a recipe, once for each guest. -/
def scale : Closure [int, list string] (ResultForm.fallibleValue (list string)).Result :=
  fun (guests : Int64) (ingredients : List String) =>
    if guests = 0 then .error "nobody comes"
    else .ok (List.replicate guests.toInt.toNat ingredients).flatten

/-- The ingredients come back in the shape that they were declared with. -/
def sameList : Output :=
  .dynamic { resolve := fun inputs => .ok (inputs.getLastD .any) }

def scaled : BoundFunction :=
  ⟨"scale", [.int, .list .string], sameList, none,
    .ofClosure [int, list string] (.fallibleValue (list string)) scale⟩

theorem call_of_closure_scale :
    (BoundFunction.bind "scale" [.int, .list .string] sameList none
      (.ofClosure [int, list string] (.fallibleValue (list string)) scale)).result = .ok scaled ∧
    (∀ arguments outcome, (scaled.call arguments).result = outcome ↔ scale.Ends "scale" arguments outcome) ∧
    (scaled.call [.int 2, .list [.string "egg"]]).result =
      .ok (some (.list [.string "egg", .string "egg"])) ∧
    (scaled.call [.int 0, .list []]).result = .error (.execution "scale" "nobody comes") ∧
    (scaled.call [.int 2, .list [.string "egg", .int 3]]).result =
      .error (.argument "scale" 1 (.inField "1" (.mismatch "string" "int"))) ∧
    ∀ (ρ : Type) (body : Closure [int, list string] ρ),
      body.apply _ 0 [.int 2, .list [.string "egg", .int 3]] =
        .error ⟨1, .inField "1" (.mismatch "string" "int")⟩ := by
  have hbind : (BoundFunction.bind "scale" [.int, .list .string] sameList none
      (.ofClosure [int, list string] (.fallibleValue (list string)) scale)).result = .ok scaled := rfl
  obtain ⟨hends, hunfit, -, -⟩ := BoundFunction.call_of_closure hbind
  have hstring : (scaled.call [.int 2, .list [.string "egg", .int 3]]).result =
      .error (.argument "scale" 1 (.inField "1" (.mismatch "string" "int"))) := rfl
  exact ⟨hbind, hends, rfl, rfl, hstring, hunfit _ _ _ hstring⟩

end Recipes

end Shapes
