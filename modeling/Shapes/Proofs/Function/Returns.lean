import Mathlib.Logic.ExistsUnique
import Shapes.Function.Call
import Shapes.Proofs.Outcome

/-!
What a function makes of the return list of its handler. Handlers are not held to the signature they
reported when they were bound, so the list may have any length and hold anything in any place.
-/

namespace Shapes

/-- What a return list amounts to. -/
inductive Ending where
  | returned (value : Option Value)
  | failed (text : String)
  /-- The list is too short or too long, by its length. -/
  | miscounted (count : Nat)
  | errorForData
  | dataForError

/-- What a return list amounts to where `due` data values are asked for, by the form of the list: data
values that are followed by nothing, by an empty error return, by an error or by one more data value; an
error return among the data values; or none of the lengths that are asked for. -/
inductive EndsAs (due : Nat) : List Returned → Ending → Prop
  | returned {data : List Value} {trailing : List Returned} (hdata : data.length = due)
      (htrailing : trailing = [] ∨ trailing = [.error none]) :
      EndsAs due (data.map .value ++ trailing) (.returned data.head?)
  | failed {data : List Value} {text : String} (hdata : data.length = due) :
      EndsAs due (data.map .value ++ [.error (some text)]) (.failed text)
  | miscounted {returns : List Returned} (hshort : returns.length ≠ due)
      (hlong : returns.length ≠ due + 1) : EndsAs due returns (.miscounted returns.length)
  | errorForData {returns : List Returned} {index : Nat} {error : Option String}
      (hlength : returns.length = due ∨ returns.length = due + 1) (hindex : index < due)
      (herror : returns[index]? = some (.error error)) : EndsAs due returns .errorForData
  | dataForError {data : List Value} {extra : Value} (hdata : data.length = due) :
      EndsAs due (data.map .value ++ [.value extra]) .dataForError

/-- The items of a list are data values, or there is an error return among them. -/
private theorem values_or_error (items : List Returned) :
    (∃ data : List Value, items = data.map .value) ∨
      ∃ index error, index < items.length ∧ items[index]? = some (.error error) := by
  induction items with
  | nil => exact Or.inl ⟨[], rfl⟩
  | cons item rest ih =>
    cases item with
    | error error => exact Or.inr ⟨0, error, Nat.succ_pos _, rfl⟩
    | value v =>
      rcases ih with ⟨data, rfl⟩ | ⟨index, error, hindex, herror⟩
      · exact Or.inl ⟨v :: data, rfl⟩
      · exact Or.inr ⟨index + 1, error, Nat.succ_lt_succ hindex, herror⟩

/-- Every return list amounts to something. -/
theorem exists_endsAs (due : Nat) (returns : List Returned) : ∃ ending, EndsAs due returns ending := by
  by_cases hlength : returns.length = due ∨ returns.length = due + 1
  · have hdue : (returns.take due).length = due := by
      rw [List.length_take]
      omega
    rcases values_or_error (returns.take due) with ⟨data, hdata⟩ | ⟨index, error, hindex, herror⟩
    · have hcount : data.length = due := by
        rw [← hdue, hdata, List.length_map]
      have hsplit : returns = data.map .value ++ returns.drop due := by
        rw [← hdata, List.take_append_drop]
      have hrest : (returns.drop due).length ≤ 1 := by
        rw [List.length_drop]
        omega
      rw [hsplit]
      generalize returns.drop due = trailing at hrest
      match trailing, hrest with
      | [], _ => exact ⟨_, .returned hcount (Or.inl rfl)⟩
      | [.error none], _ => exact ⟨_, .returned hcount (Or.inr rfl)⟩
      | [.error (some text)], _ => exact ⟨_, .failed hcount⟩
      | [.value extra], _ => exact ⟨_, .dataForError hcount⟩
    · rw [hdue] at hindex
      rw [List.getElem?_take_of_lt hindex] at herror
      exact ⟨_, .errorForData hlength hindex herror⟩
  · rw [not_or] at hlength
    exact ⟨_, .miscounted hlength.1 hlength.2⟩

/-- No data value is returned next to an error. -/
theorem EndsAs.error_not_mem {due : Nat} {returns : List Returned} {value : Option Value}
    (hends : EndsAs due returns (.returned value)) (text : String) :
    Returned.error (some text) ∉ returns := by
  cases hends with
  | returned _ htrailing => rcases htrailing with rfl | rfl <;> simp

namespace BoundFunction

variable {f : BoundFunction} {arguments : List Value} {returns : List Returned} {ending : Ending}

/-- How a call ends when the return list amounts to `ending`. -/
def outcome (f : BoundFunction) : Ending → Except CallError (Option Value)
  | .returned value => .ok value
  | .failed text => .error (.execution f.id text)
  | .miscounted count => .error (.returnCount f.id f.output.dataCount count)
  | .errorForData => .error (.invalidDataReturn f.id)
  | .dataForError => .error (.invalidErrorReturn f.id)

theorem outcome_injective : Function.Injective f.outcome := by
  intro ending other heq
  cases ending <;> cases other <;> simp_all [outcome]

theorem dataCount_eq_zero_or_one (output : Output) : output.dataCount = 0 ∨ output.dataCount = 1 := by
  cases output with
  | nothing => exact Or.inl rfl
  | fixed => exact Or.inr rfl
  | dynamic => exact Or.inr rfl

/-- What a return list amounts to decides the call. -/
theorem normalize_of_endsAs (hends : EndsAs f.output.dataCount returns ending) :
    (f.normalize returns).result = f.outcome ending := by
  cases hends with
  | @returned data trailing hdata htrailing =>
    rcases dataCount_eq_zero_or_one f.output with hdue | hdue <;> rw [hdue] at hdata
    · obtain rfl := List.length_eq_zero_iff.1 hdata
      rcases htrailing with rfl | rfl <;> simp [normalize, conclude, hdue, outcome]
    · obtain ⟨v, rfl⟩ := List.length_eq_one_iff.1 hdata
      rcases htrailing with rfl | rfl <;> simp [normalize, conclude, hdue, outcome]
  | @failed data text hdata =>
    rcases dataCount_eq_zero_or_one f.output with hdue | hdue <;> rw [hdue] at hdata
    · obtain rfl := List.length_eq_zero_iff.1 hdata
      simp [normalize, conclude, hdue, outcome, Traced.result_bind, Except.bind]
    · obtain ⟨v, rfl⟩ := List.length_eq_one_iff.1 hdata
      simp [normalize, conclude, hdue, outcome, Traced.result_bind, Except.bind]
  | miscounted hshort hlong => simp [normalize, hshort, hlong, outcome]
  | @errorForData _ index error hlength hindex herror =>
    rcases dataCount_eq_zero_or_one f.output with hdue | hdue <;> rw [hdue] at hindex
    · omega
    · obtain rfl : index = 0 := by omega
      cases returns with
      | nil => cases herror
      | cons item rest =>
        obtain rfl : item = .error error := by simpa using herror
        rw [hdue] at hlength
        simp only [normalize, hdue]
        rw [if_pos hlength]
        rfl
  | @dataForError data extra hdata =>
    rcases dataCount_eq_zero_or_one f.output with hdue | hdue <;> rw [hdue] at hdata
    · obtain rfl := List.length_eq_zero_iff.1 hdata
      simp [normalize, conclude, hdue, outcome]
    · obtain ⟨v, rfl⟩ := List.length_eq_one_iff.1 hdata
      simp [normalize, conclude, hdue, outcome]

/-- A return list amounts to one thing only. -/
theorem existsUnique_endsAs (f : BoundFunction) (returns : List Returned) :
    ∃! ending, EndsAs f.output.dataCount returns ending := by
  obtain ⟨ending, hends⟩ := exists_endsAs f.output.dataCount returns
  refine ⟨ending, hends, fun other hother => ?_⟩
  apply outcome_injective (f := f)
  rw [← normalize_of_endsAs hends, ← normalize_of_endsAs hother]

/-- The number of arguments is right, and the handler accepts them and returns a list that amounts to
`ending`. -/
def Runs (f : BoundFunction) (arguments : List Value) (ending : Ending) : Prop :=
  arguments.length = f.inputs.length ∧ ∃ returns, f.handler.invoke arguments = .ok returns ∧
    EndsAs f.output.dataCount returns ending

theorem result_call : (f.call arguments).result =
    if arguments.length = f.inputs.length then
      match f.handler.invoke arguments with
      | .error error => .error (.argument f.id error.index error.cause)
      | .ok returns => (f.normalize returns).result
    else .error (.arity f.id f.inputs.length arguments.length) := by
  unfold call
  split
  · rw [Traced.result_bind]
    cases f.handler.invoke arguments <;> rfl
  · rfl

theorem outcome_ne_arity (expected actual : Nat) :
    f.outcome ending ≠ .error (.arity f.id expected actual) := by
  cases ending <;> simp [outcome]

theorem outcome_ne_argument {id : String} (index : Nat) (cause : DataError) :
    f.outcome ending ≠ .error (.argument id index cause) := by
  cases ending <;> simp [outcome]

theorem call_eq_outcome_iff (ending : Ending) :
    (f.call arguments).result = f.outcome ending ↔ f.Runs arguments ending := by
  rw [result_call, Runs]
  by_cases harity : arguments.length = f.inputs.length
  · rw [if_pos harity]
    cases hinvoke : f.handler.invoke arguments with
    | error error => simpa using (outcome_ne_argument error.index error.cause).symm
    | ok returns =>
      obtain ⟨actual, hends, hunique⟩ := f.existsUnique_endsAs returns
      simp only [normalize_of_endsAs hends, outcome_injective.eq_iff, harity, true_and,
        Except.ok.injEq, exists_eq_left']
      exact ⟨fun heq => heq ▸ hends, fun hother => (hunique ending hother).symm⟩
  · rw [if_neg harity]
    simpa [harity] using (outcome_ne_arity _ _).symm

theorem call_eq_arity_iff :
    (f.call arguments).result = .error (.arity f.id f.inputs.length arguments.length) ↔
      arguments.length ≠ f.inputs.length := by
  rw [result_call]
  by_cases harity : arguments.length = f.inputs.length
  · rw [if_pos harity]
    cases f.handler.invoke arguments with
    | error error => simp [harity]
    | ok returns =>
      obtain ⟨ending, hends, _⟩ := f.existsUnique_endsAs returns
      simpa [harity, normalize_of_endsAs hends] using outcome_ne_arity _ _
  · simp [harity]

theorem call_eq_argument_iff {index : Nat} {cause : DataError} :
    (f.call arguments).result = .error (.argument f.id index cause) ↔
      arguments.length = f.inputs.length ∧ f.handler.invoke arguments = .error ⟨index, cause⟩ := by
  rw [result_call]
  by_cases harity : arguments.length = f.inputs.length
  · rw [if_pos harity]
    cases f.handler.invoke arguments with
    | error error =>
      obtain ⟨actual, reason⟩ := error
      simp [harity]
    | ok returns =>
      obtain ⟨ending, hends, _⟩ := f.existsUnique_endsAs returns
      simpa [normalize_of_endsAs hends] using outcome_ne_argument index cause
  · simp [harity]

/-- A call gives a data value exactly if the function has a data output. -/
theorem Runs.isSome_iff {value : Option Value} (hruns : f.Runs arguments (.returned value)) :
    value.isSome = true ↔ f.output ≠ .nothing := by
  obtain ⟨_, returns, _, hends⟩ := hruns
  cases hends with
  | returned hdata _ =>
    cases houtput : f.output <;> rw [houtput] at hdata
    · obtain rfl := List.length_eq_zero_iff.1 hdata
      simp
    all_goals
      obtain ⟨v, rfl⟩ := List.length_eq_one_iff.1 hdata
      simp

/-- Only a function without data output has no shape for its output. -/
theorem outputFor_eq_ok_none_iff {inputs : List Shape} :
    (f.outputFor inputs).result = .ok none ↔ f.output = .nothing := by
  unfold outputFor
  cases f.output with
  | nothing => simp
  | fixed shape => simp
  | dynamic resolver =>
    rw [Traced.result_bind]
    simp only [Traced.result_announce, Except.bind, reduceCtorEq, iff_false]
    cases resolver.resolve inputs <;> simp

/-- A call with documents gives the document of the data value. It gives none only where there is no
data value. -/
theorem callJson_eq_ok_iff {registry : Registry} {documents : List Json} {document? : Option Json} :
    (f.callJson registry documents).result = .ok document? ↔
      documents.length = f.inputs.length ∧ ∃ values,
        (f.readArguments registry documents).result = .ok values ∧
        ((f.output = .nothing ∧ f.Runs values (.returned none) ∧ document? = none) ∨
          ∃ shape data document, (f.outputFor f.inputs).result = .ok (some shape) ∧
            f.Runs values (.returned (some data)) ∧
            (shape.write registry data).result = .ok document ∧ document? = some document) := by
  unfold callJson
  split
  · rename_i harity
    simp only [harity, true_and, Traced.result_bind_eq_ok, Traced.budgeted,
      Traced.result_mapError_eq_ok]
    refine exists_congr fun values => and_congr_right fun _ => ?_
    constructor
    · rintro ⟨output, houtput, value, hcall, hresult⟩
      have hruns : f.Runs values (.returned value) := (call_eq_outcome_iff _).1 hcall
      cases output with
      | none =>
        have hnothing := outputFor_eq_ok_none_iff.1 houtput
        have hnone : value = none := by simpa [hnothing] using hruns.isSome_iff
        subst hnone
        refine Or.inl ⟨hnothing, hruns, ?_⟩
        simpa using hresult.symm
      | some shape =>
        have hdata : f.output ≠ .nothing := by
          intro hnothing
          rw [outputFor_eq_ok_none_iff.2 hnothing] at houtput
          cases houtput
        obtain ⟨data, rfl⟩ := Option.isSome_iff_exists.1 (hruns.isSome_iff.2 hdata)
        simp only [Traced.result_bind_eq_ok, Traced.result_mapError_eq_ok, Traced.result_pure,
          Except.ok.injEq] at hresult
        obtain ⟨document, hdocument, rfl⟩ := hresult
        exact Or.inr ⟨shape, data, document, houtput, hruns, hdocument, rfl⟩
    · rintro (⟨hnothing, hruns, rfl⟩ | ⟨shape, data, document, houtput, hruns, hdocument, rfl⟩)
      · exact ⟨none, outputFor_eq_ok_none_iff.2 hnothing, none, (call_eq_outcome_iff _).2 hruns, rfl⟩
      · refine ⟨some shape, houtput, some data, (call_eq_outcome_iff _).2 hruns, ?_⟩
        simp only [Traced.result_bind_eq_ok, Traced.result_mapError_eq_ok, Traced.result_pure]
        exact ⟨document, hdocument, rfl⟩
  · rename_i harity
    simp [harity]

/-- Whatever the handler returns, the form of its return list alone decides the call, and every list is
of one form only: the data values that the output asks for, `null` or an error behind them, or one of
the ways to miss that. A call with documents loses no data value. -/
theorem call_exact (f : BoundFunction) (registry : Registry) :
    (f.output = .nothing ∧ f.output.dataCount = 0 ∨ f.output ≠ .nothing ∧ f.output.dataCount = 1) ∧
    (∀ returns, ∃! ending, EndsAs f.output.dataCount returns ending) ∧
    (∀ arguments value, (f.call arguments).result = .ok value ↔
      f.Runs arguments (.returned value) ∧ (value.isSome = true ↔ f.output ≠ .nothing)) ∧
    (∀ arguments text, (f.call arguments).result = .error (.execution f.id text) ↔
      f.Runs arguments (.failed text)) ∧
    (∀ arguments count,
      (f.call arguments).result = .error (.returnCount f.id f.output.dataCount count) ↔
        f.Runs arguments (.miscounted count)) ∧
    (∀ arguments, (f.call arguments).result = .error (.invalidDataReturn f.id) ↔
      f.Runs arguments .errorForData) ∧
    (∀ arguments, (f.call arguments).result = .error (.invalidErrorReturn f.id) ↔
      f.Runs arguments .dataForError) ∧
    (∀ arguments,
      (f.call arguments).result = .error (.arity f.id f.inputs.length arguments.length) ↔
        arguments.length ≠ f.inputs.length) ∧
    (∀ arguments index cause, (f.call arguments).result = .error (.argument f.id index cause) ↔
      arguments.length = f.inputs.length ∧ f.handler.invoke arguments = .error ⟨index, cause⟩) ∧
    (¬ ∃ returns value text, EndsAs f.output.dataCount returns (.returned value) ∧
      Returned.error (some text) ∈ returns) ∧
    (∀ documents document?, (f.callJson registry documents).result = .ok document? ↔
      documents.length = f.inputs.length ∧ ∃ values,
        (f.readArguments registry documents).result = .ok values ∧
        ((f.output = .nothing ∧ f.Runs values (.returned none) ∧ document? = none) ∨
          ∃ shape data document, (f.outputFor f.inputs).result = .ok (some shape) ∧
            f.Runs values (.returned (some data)) ∧
            (shape.write registry data).result = .ok document ∧ document? = some document)) := by
  refine ⟨?_, f.existsUnique_endsAs, fun arguments value => ?_,
    fun arguments text => call_eq_outcome_iff (.failed text),
    fun arguments count => call_eq_outcome_iff (.miscounted count),
    fun arguments => call_eq_outcome_iff .errorForData,
    fun arguments => call_eq_outcome_iff .dataForError,
    fun _ => call_eq_arity_iff, fun _ _ _ => call_eq_argument_iff,
    fun ⟨_, _, text, hends, hmem⟩ => hends.error_not_mem text hmem, fun _ _ => callJson_eq_ok_iff⟩
  · cases f.output <;> simp [Output.dataCount]
  · constructor
    · intro hcall
      have hruns : f.Runs arguments (.returned value) := (call_eq_outcome_iff _).1 hcall
      exact ⟨hruns, hruns.isSome_iff⟩
    · rintro ⟨hruns, _⟩
      exact (call_eq_outcome_iff _).2 hruns

/-- Code that returns a second integer in place of the error return that it reported is bound, and found
out when it is called. -/
example : ∃ f, (bind "twice" [] (.fixed .int) none {
      signature := ⟨[], [.value .int, .error]⟩
      invoke := fun _ => .ok [.value (.int 1), .value (.int 2)] }).result = .ok f ∧
    (f.call []).result = .error (.invalidErrorReturn "twice") :=
  ⟨_, rfl, rfl⟩

end BoundFunction

end Shapes
