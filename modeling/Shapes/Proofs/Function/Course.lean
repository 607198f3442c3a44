import Shapes.Proofs.Announcements
import Shapes.Proofs.Function.Returns

/-!
The course of a call with documents: which user code runs, in which order, and how the call ends. The
handler runs last and only if nothing that can be told without it stands in the way, so no result of its
work is lost to a bad argument or to an output without a shape.
-/

namespace Shapes

namespace Event

def isInvocation : Event → Bool
  | .handlerInvoked _ => true
  | _ => false

def isConsultation : Event → Bool
  | .resolverConsulted _ => true
  | _ => false

end Event

namespace Output

/-- The shape of an output for the shapes of the inputs, if the output has one: the fixed shape, or what
the resolver gives. -/
def shapeFor (inputs : List Shape) : Output → Except String (Option Shape)
  | .nothing => .ok none
  | .fixed shape => .ok (some shape)
  | .dynamic resolver => (resolver.resolve inputs).map some

/-- What is asked of a resolver to determine the shape of an output. -/
def consultations (inputs : List Shape) : Output → List Event
  | .dynamic _ => [.resolverConsulted inputs]
  | _ => []

end Output

namespace BoundFunction

variable {f : BoundFunction} {registry : Registry} {documents : List Json} {values : List Value}
  {shape? : Option Shape}

/-- There are as many documents as inputs, and each reads as the value in its place. -/
def ReadsArguments (f : BoundFunction) (registry : Registry) (documents : List Json)
    (values : List Value) : Prop :=
  documents.length = f.inputs.length ∧
    List.Forall₂ (fun (given : Shape × Json) value => (given.1.read registry given.2).result = .ok value)
      (f.inputs.zip documents) values

/-- All that can be told before the handler runs is well: the arguments read, and the output has its
shape. -/
def Ready (f : BoundFunction) (registry : Registry) (documents : List Json) (values : List Value)
    (shape? : Option Shape) : Prop :=
  f.ReadsArguments registry documents values ∧ f.output.shapeFor f.inputs = .ok shape?

/-- How a call with documents may go: the user code that runs, in order, and the end of the call. The
first thing that is wrong decides: the number of arguments, the first argument that does not read, the
resolver, the handler, and at last the data value. -/
inductive Course (f : BoundFunction) (registry : Registry) (documents : List Json) :
    List Event → Except (Stop CallError) (Option Json) → Prop
  | miscounted (hcount : documents.length ≠ f.inputs.length) :
      Course f registry documents []
        (.error (.failed (.arity f.id f.inputs.length documents.length)))
  | unread {index : Nat} {shape : Shape} {document : Json} {stop : Stop DataError}
      (hcount : documents.length = f.inputs.length)
      (hgiven : (f.inputs.zip documents)[index]? = some (shape, document))
      (hstop : (shape.read registry document).result = .error stop)
      (hearlier : ∀ given ∈ (f.inputs.zip documents).take index,
        ∃ value, (given.1.read registry given.2).result = .ok value) :
      Course f registry documents [] (.error (stop.map (.argument f.id index)))
  | unresolved {values : List Value} {text : String}
      (hread : f.ReadsArguments registry documents values)
      (hshape : f.output.shapeFor f.inputs = .error text) :
      Course f registry documents (f.output.consultations f.inputs)
        (.error (.failed (.resolution f.id text)))
  | failed {values : List Value} {shape? : Option Shape} {error : CallError}
      (hready : f.Ready registry documents values shape?)
      (hcall : (f.call values).result = .error error) :
      Course f registry documents (f.output.consultations f.inputs ++ [.handlerInvoked values])
        (.error (.failed error))
  | finished {values : List Value} (hready : f.Ready registry documents values none)
      (hcall : (f.call values).result = .ok none) :
      Course f registry documents (f.output.consultations f.inputs ++ [.handlerInvoked values])
        (.ok none)
  | unwritten {values : List Value} {shape : Shape} {data : Value} {cause : DataError}
      (hready : f.Ready registry documents values (some shape))
      (hcall : (f.call values).result = .ok (some data))
      (hwrite : (shape.write registry data).result = .error cause) :
      Course f registry documents (f.output.consultations f.inputs ++ [.handlerInvoked values])
        (.error (.failed (.output f.id cause)))
  | written {values : List Value} {shape : Shape} {data : Value} {document : Json}
      (hready : f.Ready registry documents values (some shape))
      (hcall : (f.call values).result = .ok (some data))
      (hwrite : (shape.write registry data).result = .ok document) :
      Course f registry documents (f.output.consultations f.inputs ++ [.handlerInvoked values])
        (.ok (some document))

theorem outputFor_eq (f : BoundFunction) (inputs : List Shape) :
    f.outputFor inputs =
      ⟨f.output.consultations inputs, (f.output.shapeFor inputs).mapError (.resolution f.id)⟩ := by
  unfold outputFor
  cases f.output with
  | nothing => rfl
  | fixed shape => rfl
  | dynamic resolver =>
    simp only [Output.shapeFor]
    cases resolver.resolve inputs <;> rfl

/-- What becomes of the data value that the handler returned. -/
def deliver (f : BoundFunction) (registry : Registry) :
    Option Value → Option Shape → Traced (Stop CallError) (Option Json)
  | some value, some shape => do
    let document ← ((shape.write registry value).mapError (.output f.id)).budgeted
    return some document
  | _, _ => return none

/-- What follows in a call with documents once the arguments are read. -/
def respond (f : BoundFunction) (registry : Registry) (values : List Value) :
    Traced (Stop CallError) (Option Json) := do
  let shape? ← (f.outputFor f.inputs).budgeted
  let value? ← (f.call values).budgeted
  f.deliver registry value? shape?

theorem callJson_eq_respond (hcount : documents.length = f.inputs.length) :
    f.callJson registry documents = f.readArguments registry documents >>= f.respond registry := by
  rw [callJson, if_pos hcount]
  rfl

theorem readArguments_eq_ok_iff (hcount : documents.length = f.inputs.length) :
    (f.readArguments registry documents).result = .ok values ↔
      f.ReadsArguments registry documents values := by
  rw [readArguments, Traced.traverseFrom_mapError_eq_ok_iff, ReadsArguments]
  simp only [hcount, true_and]

theorem ReadsArguments.length_values (hread : f.ReadsArguments registry documents values) :
    values.length = f.inputs.length := by
  rw [← hread.2.length_eq, List.length_zip, hread.1, Nat.min_self]

/-- No user code is among events. -/
def Quiet (events : List Event) : Prop :=
  ∀ event ∈ events, event.isUserCode = false

open Traced (AnnouncesOnly)

theorem quiet_of_conversion {ε α : Type} {x : Traced ε α}
    (hx : AnnouncesOnly Event.OfConversion x) : Quiet x.events :=
  fun event hmem => (hx event hmem).isUserCode_eq_false

theorem quiet_readArguments (f : BoundFunction) (registry : Registry) (documents : List Json) :
    Quiet (f.readArguments registry documents).events :=
  quiet_of_conversion
    (.traverseFrom fun _ given _ => .mapError (Shape.readNested_announces _ given.1 given.2))

theorem quiet_deliver (f : BoundFunction) (registry : Registry) (value? : Option Value)
    (shape? : Option Shape) : Quiet (f.deliver registry value? shape?).events := by
  refine quiet_of_conversion ?_
  unfold deliver
  split
  · exact .bind (.mapError (.mapError (Shape.write_announces _ _))) fun _ _ => .pure _
  · exact .pure _

/-- Once the handler has returned, only its failure is announced. -/
theorem quiet_normalize (f : BoundFunction) (returns : List Returned) :
    Quiet (f.normalize returns).events := by
  have hconclude : ∀ value rest,
      AnnouncesOnly (fun event => event.isUserCode = false) (f.conclude value rest) := by
    intro value rest
    unfold conclude
    split
    · exact .pure _
    · exact .pure _
    · exact .bind (.announce rfl) fun _ _ => .fail _
    · exact .fail _
  unfold normalize
  dsimp only
  split
  · split
    · exact hconclude _ _
    · split
      · exact hconclude _ _
      · exact AnnouncesOnly.fail _
  · exact AnnouncesOnly.fail _

/-- A call runs the handler and then no more user code. -/
theorem budgeted_call (hcount : values.length = f.inputs.length) :
    ∃ after, (f.call values).budgeted =
      ⟨.handlerInvoked values :: after, (f.call values).result.mapError .failed⟩ ∧ Quiet after := by
  rw [call, if_pos hcount]
  cases hinvoke : f.handler.invoke values with
  | error error => exact ⟨[], rfl, nofun⟩
  | ok returns => exact ⟨(f.normalize returns).events, rfl, f.quiet_normalize returns⟩

/-- A call with documents runs the user code of a log, after it has read the arguments if there is any,
and ends with an outcome. -/
def Follows (f : BoundFunction) (registry : Registry) (documents : List Json) (log : List Event)
    (outcome : Except (Stop CallError) (Option Json)) : Prop :=
  ∃ before after, f.callJson registry documents = ⟨before ++ log ++ after, outcome⟩ ∧
    Quiet before ∧ Quiet after ∧
    (log ≠ [] → before = (f.readArguments registry documents).events)

/-- Once the arguments are read, the response decides. -/
theorem follows_of_respond {log : List Event} {outcome : Except (Stop CallError) (Option Json)}
    (after : List Event) (hread : f.ReadsArguments registry documents values)
    (hrespond : f.respond registry values = ⟨log ++ after, outcome⟩) (hafter : Quiet after) :
    f.Follows registry documents log outcome := by
  refine ⟨_, after, ?_, f.quiet_readArguments registry documents, hafter, fun _ => rfl⟩
  rw [callJson_eq_respond hread.1, Traced.bind_of_ok ((readArguments_eq_ok_iff hread.1).2 hread),
    hrespond, List.append_assoc]

theorem budgeted_outputFor_of_ready (hready : f.Ready registry documents values shape?) :
    (f.outputFor f.inputs).budgeted = ⟨f.output.consultations f.inputs, .ok shape?⟩ := by
  rw [outputFor_eq, hready.2]
  rfl

/-- Where the output has its shape, the handler runs, and its error ends the call. -/
theorem follows_of_failed {error : CallError} (hready : f.Ready registry documents values shape?)
    (hcall : (f.call values).result = .error error) :
    f.Follows registry documents (f.output.consultations f.inputs ++ [.handlerInvoked values])
      (.error (.failed error)) := by
  obtain ⟨after, hcalled, hafter⟩ := budgeted_call (f := f) hready.1.length_values
  refine follows_of_respond after hready.1 ?_ hafter
  rw [hcall] at hcalled
  rw [respond, budgeted_outputFor_of_ready hready, Traced.bind_of_ok rfl, hcalled,
    Traced.bind_of_error rfl, List.append_assoc]
  rfl

/-- Where the output has its shape, the handler runs, and what it returned is delivered. -/
theorem follows_of_returned {value? : Option Value} (hready : f.Ready registry documents values shape?)
    (hcall : (f.call values).result = .ok value?) :
    f.Follows registry documents (f.output.consultations f.inputs ++ [.handlerInvoked values])
      (f.deliver registry value? shape?).result := by
  obtain ⟨after, hcalled, hafter⟩ := budgeted_call (f := f) hready.1.length_values
  have hdeliver := f.quiet_deliver registry value? shape?
  refine follows_of_respond (after ++ (f.deliver registry value? shape?).events) hready.1 ?_ ?_
  · rw [hcall] at hcalled
    rw [respond, budgeted_outputFor_of_ready hready, Traced.bind_of_ok rfl, hcalled,
      Traced.bind_of_ok rfl, List.append_assoc]
    rfl
  · intro event hmem
    exact (List.mem_append.1 hmem).elim (hafter event) (hdeliver event)

/-- A call goes as its course says. -/
theorem Course.follows {log : List Event} {outcome : Except (Stop CallError) (Option Json)}
    (hcourse : f.Course registry documents log outcome) :
    f.Follows registry documents log outcome := by
  cases hcourse with
  | miscounted hcount =>
    refine ⟨[], [], ?_, nofun, nofun, fun hlog => absurd rfl hlog⟩
    rw [callJson, if_neg hcount]
    rfl
  | @unread index shape document stop hcount hgiven hstop hearlier =>
    have herror : (f.readArguments registry documents).result =
        .error (stop.map (.argument f.id index)) := by
      refine Traced.traverseFrom_mapError_eq_error_iff.2
        ⟨index, _, stop, hgiven, hstop, hearlier, ?_⟩
      rw [Nat.zero_add]
    refine ⟨(f.readArguments registry documents).events, [], ?_, f.quiet_readArguments registry documents,
      nofun, fun hlog => absurd rfl hlog⟩
    rw [callJson_eq_respond hcount, Traced.bind_of_error herror, List.append_nil, List.append_nil]
  | @unresolved values text hread hshape =>
    refine follows_of_respond [] hread ?_ nofun
    have houtput : (f.outputFor f.inputs).budgeted =
        ⟨f.output.consultations f.inputs, .error (.failed (.resolution f.id text))⟩ := by
      rw [outputFor_eq, hshape]
      rfl
    rw [respond, houtput, Traced.bind_of_error rfl, List.append_nil]
  | failed hready hcall => exact follows_of_failed hready hcall
  | finished hready hcall => exact follows_of_returned hready hcall
  | @unwritten values shape data cause hready hcall hwrite =>
    have hfollows := follows_of_returned hready hcall
    simp only [deliver, Traced.result_bind, Traced.budgeted, Traced.mapError, hwrite] at hfollows
    exact hfollows
  | @written values shape data document hready hcall hwrite =>
    have hfollows := follows_of_returned hready hcall
    simp only [deliver, Traced.result_bind, Traced.budgeted, Traced.mapError, hwrite] at hfollows
    exact hfollows

theorem shapeFor_eq_ok_none_iff {inputs : List Shape} {output : Output} :
    output.shapeFor inputs = .ok none ↔ output = .nothing := by
  cases output with
  | nothing => simp [Output.shapeFor]
  | fixed shape => simp [Output.shapeFor]
  | dynamic resolver =>
    simp only [Output.shapeFor, reduceCtorEq, iff_false]
    cases resolver.resolve inputs <;> simp [Except.map]

/-- When all is ready, the handler runs, whatever comes of it. -/
theorem Ready.exists_course (hready : f.Ready registry documents values shape?) :
    ∃ outcome, f.Course registry documents
      (f.output.consultations f.inputs ++ [.handlerInvoked values]) outcome := by
  cases hcall : (f.call values).result with
  | error error => exact ⟨_, .failed hready hcall⟩
  | ok value? =>
    have hdata := Runs.isSome_iff ((call_eq_outcome_iff (.returned value?)).1 hcall)
    cases shape? with
    | none =>
      rw [shapeFor_eq_ok_none_iff.1 hready.2] at hdata
      obtain rfl : value? = none := by simpa using hdata
      exact ⟨_, .finished hready hcall⟩
    | some shape =>
      have houtput : f.output ≠ .nothing := by
        intro hnothing
        have hnone := hready.2
        rw [hnothing] at hnone
        cases hnone
      obtain ⟨data, rfl⟩ := Option.isSome_iff_exists.1 (hdata.2 houtput)
      cases hwrite : (shape.write registry data).result with
      | error cause => exact ⟨_, .unwritten hready hcall hwrite⟩
      | ok document => exact ⟨_, .written hready hcall hwrite⟩

/-- When the arguments read, the resolver is consulted, if there is one, before anything else. -/
theorem ReadsArguments.exists_course (hread : f.ReadsArguments registry documents values) :
    ∃ rest outcome, f.Course registry documents (f.output.consultations f.inputs ++ rest) outcome := by
  cases hshape : f.output.shapeFor f.inputs with
  | error text =>
    have hcourse := Course.unresolved hread hshape
    rw [← List.append_nil (f.output.consultations f.inputs)] at hcourse
    exact ⟨_, _, hcourse⟩
  | ok shape? => exact ⟨_, Ready.exists_course ⟨hread, hshape⟩⟩

theorem exists_course (f : BoundFunction) (registry : Registry) (documents : List Json) :
    ∃ log outcome, f.Course registry documents log outcome := by
  by_cases hcount : documents.length = f.inputs.length
  · cases hvalues : (f.readArguments registry documents).result with
    | error stop =>
      obtain ⟨index, ⟨shape, document⟩, cause, hgiven, hcause, hearlier, -⟩ :=
        Traced.traverseFrom_mapError_eq_error_iff.1 hvalues
      exact ⟨_, _, .unread hcount hgiven hcause hearlier⟩
    | ok values =>
      obtain ⟨rest, hcourse⟩ := ((readArguments_eq_ok_iff hcount).1 hvalues).exists_course
      exact ⟨_, hcourse⟩
  · exact ⟨_, _, .miscounted hcount⟩

variable {log : List Event} {outcome : Except (Stop CallError) (Option Json)}

/-- Where user code runs at all, the resolver is consulted, if there is one, and then the handler runs if
all is ready. -/
theorem Course.log_eq (hcourse : f.Course registry documents log outcome) :
    log = [] ∨ (∃ values, f.ReadsArguments registry documents values) ∧
      (log = f.output.consultations f.inputs ∨
        ∃ values shape?, f.Ready registry documents values shape? ∧
          log = f.output.consultations f.inputs ++ [.handlerInvoked values]) := by
  cases hcourse with
  | miscounted hcount => exact Or.inl rfl
  | unread hcount hgiven hstop hearlier => exact Or.inl rfl
  | unresolved hread hshape => exact Or.inr ⟨⟨_, hread⟩, Or.inl rfl⟩
  | failed hready hcall => exact Or.inr ⟨⟨_, hready.1⟩, Or.inr ⟨_, _, hready, rfl⟩⟩
  | finished hready hcall => exact Or.inr ⟨⟨_, hready.1⟩, Or.inr ⟨_, _, hready, rfl⟩⟩
  | unwritten hready hcall hwrite => exact Or.inr ⟨⟨_, hready.1⟩, Or.inr ⟨_, _, hready, rfl⟩⟩
  | written hready hcall hwrite => exact Or.inr ⟨⟨_, hready.1⟩, Or.inr ⟨_, _, hready, rfl⟩⟩

theorem mem_consultations_iff {inputs : List Shape} {output : Output} {event : Event} :
    event ∈ output.consultations inputs ↔
      event = .resolverConsulted inputs ∧ ∃ resolver, output = .dynamic resolver := by
  cases output <;> simp [Output.consultations]

theorem countP_consultations_le (sort : Event → Bool) (inputs : List Shape) (output : Output) :
    (output.consultations inputs).countP sort ≤ 1 := by
  refine Nat.le_trans List.countP_le_length ?_
  cases output with
  | dynamic resolver => exact Nat.le_refl 1
  | _ => exact Nat.zero_le 1

theorem countP_isInvocation_consultations (inputs : List Shape) (output : Output) :
    (output.consultations inputs).countP Event.isInvocation = 0 := by
  cases output <;> rfl

theorem Course.isUserCode (hcourse : f.Course registry documents log outcome) :
    ∀ event ∈ log, event.isUserCode = true := by
  intro event hmem
  have hconsultations : event ∈ f.output.consultations f.inputs → event.isUserCode = true := by
    intro hconsulted
    rw [(mem_consultations_iff.1 hconsulted).1]
    rfl
  rcases hcourse.log_eq with rfl | ⟨-, rfl | ⟨values, shape?, -, rfl⟩⟩
  · cases hmem
  · exact hconsultations hmem
  · rcases List.mem_append.1 hmem with hconsulted | hinvoked
    · exact hconsultations hconsulted
    · rw [List.mem_singleton.1 hinvoked]
      rfl

theorem Quiet.filter_eq_nil {events : List Event} (hquiet : Quiet events) :
    events.filter Event.isUserCode = [] := by
  rw [List.filter_eq_nil_iff]
  intro event hmem
  rw [hquiet event hmem]
  exact Bool.false_ne_true

/-- A course is what can be seen of a call: its user code, in order, and its end. -/
theorem course_iff : f.Course registry documents log outcome ↔
    (f.callJson registry documents).events.filter Event.isUserCode = log ∧
      (f.callJson registry documents).result = outcome := by
  have hseen : ∀ {log outcome}, f.Course registry documents log outcome →
      (f.callJson registry documents).events.filter Event.isUserCode = log ∧
        (f.callJson registry documents).result = outcome := by
    intro log outcome hcourse
    obtain ⟨before, after, hcall, hbefore, hafter, -⟩ := hcourse.follows
    rw [hcall]
    refine ⟨?_, rfl⟩
    rw [List.filter_append, List.filter_append, hbefore.filter_eq_nil, hafter.filter_eq_nil,
      List.filter_eq_self.2 hcourse.isUserCode, List.nil_append, List.append_nil]
  refine ⟨hseen, ?_⟩
  rintro ⟨rfl, rfl⟩
  obtain ⟨log, outcome, hcourse⟩ := f.exists_course registry documents
  rw [(hseen hcourse).1, (hseen hcourse).2]
  exact hcourse

theorem mem_log_iff {event : Event} (hcourse : f.Course registry documents log outcome)
    (hevent : event.isUserCode = true) : event ∈ (f.callJson registry documents).events ↔ event ∈ log := by
  rw [← (course_iff.1 hcourse).1, List.mem_filter]
  exact (and_iff_left hevent).symm

theorem countP_eq {sort : Event → Bool} (hcourse : f.Course registry documents log outcome)
    (hsort : ∀ event, sort event = true → event.isUserCode = true) :
    (f.callJson registry documents).events.countP sort = log.countP sort := by
  rw [← (course_iff.1 hcourse).1, List.countP_filter]
  refine List.countP_congr fun event hmem => ?_
  rw [Bool.and_eq_true]
  exact ⟨fun hevent => ⟨hevent, hsort event hevent⟩, And.left⟩

theorem isUserCode_of_isInvocation (event : Event) (hevent : event.isInvocation = true) :
    event.isUserCode = true := by
  cases event <;> first | rfl | cases hevent

theorem isUserCode_of_isConsultation (event : Event) (hevent : event.isConsultation = true) :
    event.isUserCode = true := by
  cases event <;> first | rfl | cases hevent

/-- The handler runs exactly when all is ready. -/
theorem handlerInvoked_mem_iff : .handlerInvoked values ∈ (f.callJson registry documents).events ↔
    ∃ shape?, f.Ready registry documents values shape? := by
  constructor
  · intro hmem
    obtain ⟨log, outcome, hcourse⟩ := f.exists_course registry documents
    rw [mem_log_iff hcourse rfl] at hmem
    have hnot : Event.handlerInvoked values ∉ f.output.consultations f.inputs := by
      intro hconsulted
      cases (mem_consultations_iff.1 hconsulted).1
    rcases hcourse.log_eq with rfl | ⟨-, rfl | ⟨others, shape?, hready, rfl⟩⟩
    · cases hmem
    · exact absurd hmem hnot
    · rcases List.mem_append.1 hmem with hconsulted | hinvoked
      · exact absurd hconsulted hnot
      · obtain rfl := Event.handlerInvoked.inj (List.mem_singleton.1 hinvoked)
        exact ⟨shape?, hready⟩
  · rintro ⟨shape?, hready⟩
    obtain ⟨outcome, hcourse⟩ := hready.exists_course
    rw [mem_log_iff hcourse rfl]
    exact List.mem_append_right _ (List.mem_singleton_self _)

/-- A resolver is consulted exactly when all arguments read, and asked about the declared inputs. -/
theorem resolverConsulted_mem_iff {inputs : List Shape} :
    .resolverConsulted inputs ∈ (f.callJson registry documents).events ↔
      inputs = f.inputs ∧ (∃ resolver, f.output = .dynamic resolver) ∧
        ∃ values, f.ReadsArguments registry documents values := by
  constructor
  · intro hmem
    obtain ⟨log, outcome, hcourse⟩ := f.exists_course registry documents
    rw [mem_log_iff hcourse rfl] at hmem
    have hconsulted : .resolverConsulted inputs ∈ f.output.consultations f.inputs →
        inputs = f.inputs ∧ ∃ resolver, f.output = .dynamic resolver := by
      intro hconsulted
      obtain ⟨heq, hdynamic⟩ := mem_consultations_iff.1 hconsulted
      exact ⟨Event.resolverConsulted.inj heq, hdynamic⟩
    rcases hcourse.log_eq with rfl | ⟨hread, rfl | ⟨others, shape?, -, rfl⟩⟩
    · cases hmem
    · exact ⟨(hconsulted hmem).1, (hconsulted hmem).2, hread⟩
    · rcases List.mem_append.1 hmem with hfirst | hlast
      · exact ⟨(hconsulted hfirst).1, (hconsulted hfirst).2, hread⟩
      · cases List.mem_singleton.1 hlast
  · rintro ⟨rfl, hdynamic, values, hread⟩
    obtain ⟨rest, outcome, hcourse⟩ := hread.exists_course
    rw [mem_log_iff hcourse rfl]
    exact List.mem_append_left _ (mem_consultations_iff.2 ⟨rfl, hdynamic⟩)

theorem countP_isInvocation_le (f : BoundFunction) (registry : Registry) (documents : List Json) :
    (f.callJson registry documents).events.countP Event.isInvocation ≤ 1 := by
  obtain ⟨log, outcome, hcourse⟩ := f.exists_course registry documents
  rw [countP_eq hcourse isUserCode_of_isInvocation]
  rcases hcourse.log_eq with rfl | ⟨-, rfl | ⟨values, shape?, -, rfl⟩⟩
  · exact Nat.zero_le 1
  · exact countP_consultations_le ..
  · rw [List.countP_append, countP_isInvocation_consultations]
    exact Nat.le_refl 1

theorem countP_isConsultation_le (f : BoundFunction) (registry : Registry) (documents : List Json) :
    (f.callJson registry documents).events.countP Event.isConsultation ≤ 1 := by
  obtain ⟨log, outcome, hcourse⟩ := f.exists_course registry documents
  rw [countP_eq hcourse isUserCode_of_isConsultation]
  rcases hcourse.log_eq with rfl | ⟨-, rfl | ⟨values, shape?, -, rfl⟩⟩
  · exact Nat.zero_le 1
  · exact countP_consultations_le ..
  · rw [List.countP_append]
    exact countP_consultations_le ..

/-- What stands before an event that is not among the first ones begins with the first ones. -/
theorem isPrefix_of_append_cons_eq {event : Event} {before after earlier later : List Event}
    (heq : before ++ event :: after = earlier ++ later) (hevent : event ∉ earlier) :
    earlier <+: before := by
  rcases List.append_eq_append_iff.1 heq with ⟨rest, rfl, hrest⟩ | ⟨rest, rfl, -⟩
  · cases rest with
    | nil => exact ⟨[], by rw [List.append_nil, List.append_nil]⟩
    | cons first rest =>
      obtain ⟨rfl, -⟩ := List.cons.inj hrest
      exact absurd (List.mem_append_right _ (List.mem_cons_self ..)) hevent
  · exact List.prefix_append _ _

/-- User code runs only after all arguments are read. -/
theorem readArguments_isPrefix {before after : List Event} {event : Event}
    (hevents : (f.callJson registry documents).events = before ++ event :: after)
    (hevent : event.isUserCode = true) :
    (f.readArguments registry documents).events <+: before := by
  obtain ⟨log, outcome, hcourse⟩ := f.exists_course registry documents
  obtain ⟨earlier, later, hcall, -, -, hfirst⟩ := hcourse.follows
  have hmem : event ∈ log := by
    rw [← mem_log_iff hcourse hevent, hevents]
    exact List.mem_append_right _ (List.mem_cons_self ..)
  obtain rfl := hfirst (List.ne_nil_of_mem hmem)
  rw [hcall, List.append_assoc] at hevents
  refine isPrefix_of_append_cons_eq hevents.symm fun hread => ?_
  rw [f.quiet_readArguments registry documents event hread] at hevent
  cases hevent

/-- No user code runs after the handler. -/
theorem quiet_of_handlerInvoked {before after : List Event}
    (hevents : (f.callJson registry documents).events = before ++ .handlerInvoked values :: after) :
    Quiet after := by
  have hmem : .handlerInvoked values ∈ (f.callJson registry documents).events := by
    rw [hevents]
    exact List.mem_append_right _ (List.mem_cons_self ..)
  obtain ⟨shape?, hready⟩ := handlerInvoked_mem_iff.1 hmem
  obtain ⟨outcome, hcourse⟩ := hready.exists_course
  have hlog := (course_iff.1 hcourse).1
  rw [hevents, List.filter_append, List.filter_cons_of_pos rfl] at hlog
  -- The resolver's consultation stands before the handler, so nothing is left to stand after it.
  obtain ⟨rest, hrest⟩ := isPrefix_of_append_cons_eq hlog fun hconsulted => by
    cases (mem_consultations_iff.1 hconsulted).1
  rw [← hrest, List.append_assoc, List.append_cancel_left_eq] at hlog
  have hlength := congrArg List.length hlog
  rw [List.length_append, List.length_cons, List.length_singleton] at hlength
  rw [Quiet]
  intro event hafter
  by_contra huser
  have hpos := List.length_pos_of_mem
    (List.mem_filter.2 ⟨hafter, eq_true_of_ne_false huser⟩)
  omega

/-- User code runs in a call with documents only when all that can be told beforehand is well, whatever
the function and the documents. Its course is what can be seen of a call: the user code that runs, in
order, and the end. The handler runs at most once, and exactly if the arguments read and the output has its
shape. A resolver is consulted at most once, with the declared inputs, and exactly if the arguments read.
User code runs after all arguments are read, and none runs after the handler. -/
theorem callJson_in_order (f : BoundFunction) (registry : Registry) (documents : List Json) :
    (∀ log outcome, f.Course registry documents log outcome ↔
      (f.callJson registry documents).events.filter Event.isUserCode = log ∧
        (f.callJson registry documents).result = outcome) ∧
    (∀ values, .handlerInvoked values ∈ (f.callJson registry documents).events ↔
      ∃ shape?, f.Ready registry documents values shape?) ∧
    (f.callJson registry documents).events.countP Event.isInvocation ≤ 1 ∧
    (∀ inputs, .resolverConsulted inputs ∈ (f.callJson registry documents).events ↔
      inputs = f.inputs ∧ (∃ resolver, f.output = .dynamic resolver) ∧
        ∃ values, f.ReadsArguments registry documents values) ∧
    (f.callJson registry documents).events.countP Event.isConsultation ≤ 1 ∧
    (∀ before event after, (f.callJson registry documents).events = before ++ event :: after →
      event.isUserCode = true → (f.readArguments registry documents).events <+: before) ∧
    (∀ before values after,
      (f.callJson registry documents).events = before ++ .handlerInvoked values :: after → Quiet after) :=
  ⟨fun _ _ => course_iff, fun _ => handlerInvoked_mem_iff, f.countP_isInvocation_le registry documents,
    fun _ => resolverConsulted_mem_iff, f.countP_isConsultation_le registry documents,
    fun _ _ _ => readArguments_isPrefix, fun _ _ _ => quiet_of_handlerInvoked⟩

end BoundFunction

end Shapes
