import Shapes.Value.Record
import Shapes.Proofs.Fields

/-!
What taking fields out of a record leaves behind. A field leaves the record as soon as it is found,
before its value is converted: a take of a missing field changes nothing, and a take whose value
does not convert has removed its field all the same.
-/

namespace Shapes

/-- A field to be taken out, as a value of a native type. -/
structure Request where
  native : NativeType
  field : String

/-- How a take ended. -/
inductive Receipt where
  /-- The field was there, and its value converted. -/
  | converted
  /-- The field was there, and its value did not convert. -/
  | unconverted
  /-- The field was not there. -/
  | missing
deriving DecidableEq

/-- The receipt of the take that gave this answer. An error of the conversion itself lies inside the
field, so it is not mistaken for the field being missing. -/
def Receipt.of {α : Type} : Except DataError α → Receipt
  | .ok _ => converted
  | .error (.missingField _) => missing
  | .error _ => unconverted

/-- The fields that takes found, in the order of the takes. -/
def foundIn (log : List (String × Receipt)) : List String :=
  (log.filter fun entry => entry.2 ≠ .missing).map Prod.fst

theorem mem_foundIn {log : List (String × Receipt)} {name : String} :
    name ∈ foundIn log ↔ (name, Receipt.converted) ∈ log ∨ (name, Receipt.unconverted) ∈ log := by
  constructor
  · intro hmem
    obtain ⟨⟨_, receipt⟩, hentry, rfl⟩ := List.mem_map.1 hmem
    obtain ⟨hentry, hfound⟩ := List.mem_filter.1 hentry
    cases receipt with
    | converted => exact .inl hentry
    | unconverted => exact .inr hentry
    | missing => simp at hfound
  · rintro (hentry | hentry)
    · exact List.mem_map.2 ⟨_, List.mem_filter.2 ⟨hentry, rfl⟩, rfl⟩
    · exact List.mem_map.2 ⟨_, List.mem_filter.2 ⟨hentry, rfl⟩, rfl⟩

theorem foundIn_append (first second : List (String × Receipt)) :
    foundIn (first ++ second) = foundIn first ++ foundIn second := by
  simp only [foundIn, List.filter_append, List.map_append]

namespace Record

variable {record left after : Record} {log : List (String × Receipt)}

/-- Takes fields out one after the other; with the receipts of all takes, and the record left. -/
def takeAll : Record → List Request → List (String × Receipt) × Record
  | record, [] => ([], record)
  | record, request :: rest =>
    let (answer, left) := record.take request.native request.field
    let (log, last) := left.takeAll rest
    ((request.field, .of answer) :: log, last)

theorem take_of_missing {native : NativeType} {field : String} (hmissing : record.get? field = none) :
    record.take native field = (.error (.missingField field), record) := by
  rw [take, hmissing]

theorem take_of_found {native : NativeType} {field : String} {value : Value}
    (hdistinct : record.fields.Distinct) (hget : record.get? field = some value) :
    record.take native field =
      ((native.ofValue value).mapError (.inField field), ⟨record.id, record.fields.without field⟩) := by
  rw [take, hget, ← Fields.erase_eq_without hdistinct]

/-- A value that was found never makes its take report a missing field. -/
theorem receipt_of_found {α : Type} (conversion : Except DataError α) (field : String) :
    Receipt.of (conversion.mapError (.inField field)) ≠ .missing := by
  cases conversion with
  | error cause => exact nofun
  | ok content => exact nofun

/-- `left` is what takes with this log leave of `record`: all entries but those they found, in the
order they had. No take finds a field that is not stored or that an earlier one has found. -/
structure Drained (record : Record) (log : List (String × Receipt)) (left : Record) : Prop where
  sameId : left.id = record.id
  remaining : left.fields = record.fields.filter fun entry => entry.1 ∉ foundIn log
  stored : foundIn log ⊆ record.fields.names
  once : (foundIn log).Nodup

theorem Drained.refl (record : Record) : record.Drained [] record where
  sameId := rfl
  remaining := (List.filter_eq_self.2 fun _ _ => rfl).symm
  stored := List.nil_subset _
  once := List.nodup_nil

theorem Drained.names_left (hdrained : record.Drained log left) :
    left.fields.names = record.fields.names.filter fun name => name ∉ foundIn log := by
  rw [hdrained.remaining]
  exact Fields.names_filter fun name => decide (name ∉ foundIn log)

theorem Drained.distinct (hdrained : record.Drained log left) (hdistinct : record.fields.Distinct) :
    left.fields.Distinct := by
  rw [Fields.Distinct, hdrained.names_left]
  exact hdistinct.filter _

theorem Drained.trans {later : List (String × Receipt)} (hfirst : record.Drained log left)
    (hsecond : left.Drained later after) : record.Drained (log ++ later) after := by
  -- What the later takes found was left by the earlier ones.
  have hlater : ∀ name ∈ foundIn later, name ∈ record.fields.names ∧ name ∉ foundIn log := by
    intro name hname
    have hleft := hsecond.stored hname
    rw [hfirst.names_left] at hleft
    simpa using hleft
  refine ⟨hsecond.sameId.trans hfirst.sameId, ?_, ?_, ?_⟩
  · rw [hsecond.remaining, hfirst.remaining, List.filter_filter, foundIn_append]
    refine List.filter_congr fun entry _ => ?_
    simp only [List.mem_append, not_or, Bool.decide_and, Bool.and_comm]
  · rw [foundIn_append]
    exact List.append_subset.2 ⟨hfirst.stored, fun name hname => (hlater name hname).1⟩
  · rw [foundIn_append]
    exact hfirst.once.append hsecond.once fun name hname hagain => (hlater name hagain).2 hname

/-- One take. -/
theorem take_drained (hdistinct : record.fields.Distinct) (native : NativeType) (field : String) :
    record.Drained [(field, .of (record.take native field).1)] (record.take native field).2 := by
  cases hget : record.get? field with
  | none =>
    rw [take_of_missing hget]
    exact ⟨rfl, (Drained.refl record).remaining, List.nil_subset _, List.nodup_nil⟩
  | some value =>
    rw [take_of_found hdistinct hget]
    have hfound := receipt_of_found (native.ofValue value) field
    generalize Receipt.of ((native.ofValue value).mapError (.inField field)) = receipt at hfound
    have honly : foundIn [(field, receipt)] = [field] := by
      simp [foundIn, hfound]
    have hstored : field ∈ record.fields.names :=
      List.mem_map.2 ⟨(field, value), Fields.mem_of_get? hget, rfl⟩
    refine ⟨rfl, ?_, ?_, ?_⟩
    · rw [honly, Fields.without_eq_filter]
      simp only [List.mem_singleton, ne_eq]
    · rw [honly]
      exact List.cons_subset.2 ⟨hstored, List.nil_subset _⟩
    · rw [honly]
      exact List.nodup_singleton field

/-- Any number of takes. -/
theorem takeAll_drained (hdistinct : record.fields.Distinct) (requests : List Request) :
    record.Drained (record.takeAll requests).1 (record.takeAll requests).2 := by
  induction requests generalizing record with
  | nil => exact .refl record
  | cons request rest ih =>
    have hstep := take_drained hdistinct request.native request.field
    exact hstep.trans (ih (hstep.distinct hdistinct))

/-- A field is found once, so its value converted or it did not. -/
theorem Drained.not_unconverted (hdrained : record.Drained log left) {name : String}
    (hconverted : (name, Receipt.converted) ∈ log) : (name, Receipt.unconverted) ∉ log := by
  intro hunconverted
  have hsame := List.inj_on_of_nodup_map hdrained.once (List.mem_filter.2 ⟨hconverted, rfl⟩)
    (List.mem_filter.2 ⟨hunconverted, rfl⟩) rfl
  cases hsame

/-- The fields that are gone are those whose values converted just in case no conversion failed. -/
theorem Drained.remaining_iff_converted (hdrained : record.Drained log left) :
    (left.fields = record.fields.filter fun entry => (entry.1, Receipt.converted) ∉ log) ↔
      ∀ name, (name, Receipt.unconverted) ∉ log := by
  constructor
  · intro hremaining name hunconverted
    have hfound : name ∈ foundIn log := mem_foundIn.2 (.inr hunconverted)
    obtain ⟨entry, hentry, rfl⟩ := List.mem_map.1 (hdrained.stored hfound)
    have hgone : entry ∉ left.fields := by
      rw [hdrained.remaining]
      simp [hfound]
    have hconverted : (entry.1, Receipt.converted) ∈ log := by
      rw [hremaining] at hgone
      simpa [hentry] using hgone
    exact hdrained.not_unconverted hconverted hunconverted
  · intro hall
    rw [hdrained.remaining]
    refine List.filter_congr fun entry _ => decide_eq_decide.2 (not_congr ?_)
    rw [mem_foundIn, or_iff_left (hall entry.1)]

/-- After any takes, of any fields as any native types, a record has the fields it had but for those
whose takes converted them and those whose takes failed to convert them; only without failures of
the second kind are these the fields that were converted. Whatever was taken before, a take that
misses its field changes nothing, and one that finds it removes that field alone and answers with
the conversion. -/
theorem takes_remove_found (record : Record) (hdistinct : record.fields.Distinct) (requests : List Request) :
    ∃ log left, record.takeAll requests = (log, left) ∧ left.id = record.id ∧
      (left.fields = record.fields.filter fun entry =>
        (entry.1, Receipt.converted) ∉ log ∧ (entry.1, Receipt.unconverted) ∉ log) ∧
      ((left.fields = record.fields.filter fun entry => (entry.1, Receipt.converted) ∉ log) ↔
        ∀ name, (name, Receipt.unconverted) ∉ log) ∧
      ∀ (native : NativeType) (field : String),
        (field ∉ left.fields.names → left.take native field = (.error (.missingField field), left)) ∧
        ∀ value, (field, value) ∈ left.fields →
          left.take native field = ((native.ofValue value).mapError (.inField field),
            ⟨left.id, left.fields.filter fun entry => entry.1 ≠ field⟩) := by
  have hdrained := takeAll_drained hdistinct requests
  refine ⟨_, _, rfl, hdrained.sameId, ?_, hdrained.remaining_iff_converted, fun native field => ⟨?_, ?_⟩⟩
  · rw [hdrained.remaining]
    refine List.filter_congr fun entry _ => decide_eq_decide.2 ?_
    rw [mem_foundIn, not_or]
  · intro habsent
    exact take_of_missing (Fields.get?_eq_none_iff.2 habsent)
  · intro value hmem
    have hleft := hdrained.distinct hdistinct
    rw [take_of_found hleft (Fields.get?_of_mem hleft hmem), Fields.without_eq_filter]

end Record

namespace Baskets

/-- A basket whose items are not all numbers. -/
def basket : Record :=
  ⟨"Basket", [("items", .list [.int 1, .string "two"]), ("owner", .string "ann"), ("count", .int 2)]⟩

def requests : List Request :=
  [⟨.list .int, "items"⟩, ⟨.list .any, "items"⟩, ⟨.int, "count"⟩]

/-- The items do not convert and cannot be asked for again; the owner is still there. -/
theorem takes_remove_found_basket :
    basket.fields.Distinct ∧
    basket.takeAll requests =
      ([("items", .unconverted), ("items", .missing), ("count", .converted)],
        ⟨"Basket", [("owner", .string "ann")]⟩) ∧
    (∃ log left, basket.takeAll requests = (log, left) ∧
      left.fields = basket.fields.filter fun entry =>
        (entry.1, Receipt.converted) ∉ log ∧ (entry.1, Receipt.unconverted) ∉ log) := by
  have hdistinct : basket.fields.Distinct := by decide
  obtain ⟨log, left, htake, _, hleft, _⟩ := Record.takes_remove_found basket hdistinct requests
  exact ⟨hdistinct, rfl, log, left, htake, hleft⟩

/-- A failed take can change the record: the items are gone, although no take converted them. -/
theorem failed_take_removes :
    basket.fields.Distinct ∧
    basket.take (.list .int) "items" =
      (.error (.inField "items" (.inField "1" (.mismatch "int" "string"))),
        ⟨"Basket", [("owner", .string "ann"), ("count", .int 2)]⟩) ∧
    (basket.take (.list .int) "items").2 ≠ basket ∧
    (basket.takeAll [⟨.list .int, "items"⟩]).1 = [("items", .unconverted)] ∧
    (basket.takeAll [⟨.list .int, "items"⟩]).2.fields ≠
      basket.fields.filter (fun entry => (entry.1, Receipt.converted) ∉ [("items", Receipt.unconverted)]) := by
  refine ⟨by decide, rfl, fun hsame => ?_, rfl, fun hsame => ?_⟩
  · cases congrArg (fun record => record.fields.length) hsame
  · cases congrArg List.length hsame

end Baskets

end Shapes
