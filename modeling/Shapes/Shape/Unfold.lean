import Shapes.Shape.Read
import Shapes.Shape.Write

/-!
Reading and writing one level at a time. The depth limits under which both are defined do not show:
a document is read by reading its parts, and a value is written by writing its parts.
-/

namespace Shapes

namespace Json

theorem depth_lt_of_present? {name : String} {value : Json} {entries : Fields Json}
    (hpresent : present? entries name = some value) : value.depth < depthEntries entries := by
  obtain ⟨hget, _⟩ := Option.filter_eq_some_iff.1 hpresent
  exact depth_lt_of_get? hget

end Json

namespace Value

theorem depth_lt_of_present? {name : String} {value : Value} {fields : Fields Value}
    (hpresent : present? fields name = some value) : value.depth < depthFields fields := by
  obtain ⟨hget, _⟩ := Option.filter_eq_some_iff.1 hpresent
  exact depth_lt_of_get? hget

end Value

namespace ObjectOf

theorem readField_congr {part other default : Reader} {entries : Fields Json} (name : String)
    (property : Property Shape)
    (hagree : ∀ shape raw, raw.depth < Json.depthEntries entries → part shape raw = other shape raw) :
    readField part default entries name property = readField other default entries name property := by
  unfold readField
  split
  · rename_i raw hraw
    rw [hagree property.shape raw (Json.depth_lt_of_present? hraw)]
  · rfl

theorem read_congr {part other default : Reader} {tolerated : Option String} (o : ObjectShape)
    {input : Json} (hagree : ∀ shape raw, raw.depth < input.depth → part shape raw = other shape raw) :
    o.read part default tolerated input = o.read other default tolerated input := by
  cases input with
  | object entries =>
    have hfields : ∀ name property, readField part default entries name property =
        readField other default entries name property :=
      fun name property => readField_congr name property fun shape raw hraw => hagree shape raw (by
        rw [Json.depth]; omega)
    simp only [read, hfields]
  | _ => rfl

theorem writeField_congr {part other : Writer} {fields : Fields Value} (name : String)
    (property : Property Shape)
    (hagree : ∀ shape content, content.depth < Value.depthFields fields →
      part shape content = other shape content) :
    writeField part fields name property = writeField other fields name property := by
  unfold writeField
  split
  · rename_i content hcontent
    rw [hagree property.shape content (Value.depth_lt_of_present? hcontent)]
  · rfl

theorem write_congr {part other : Writer} (o : ObjectShape) {value : Value}
    (hagree : ∀ shape content, content.depth < value.depth → part shape content = other shape content) :
    o.write part value = o.write other value := by
  cases value with
  | object id fields =>
    have hfields : ∀ name property, writeField part fields name property =
        writeField other fields name property :=
      fun name property => writeField_congr name property fun shape content hcontent =>
        hagree shape content (by rw [Value.depth]; omega)
    simp only [write, hfields]
  | _ => rfl

end ObjectOf

namespace Shape

theorem readStep_congr {registry : Registry} {part other default : Reader} (shape : Shape)
    {input : Json} (hagree : ∀ shape raw, raw.depth < input.depth → part shape raw = other shape raw) :
    readStep registry part default shape input = readStep registry other default shape input := by
  cases shape with
  | list items =>
    cases input with
    | array inputs =>
      simp only [readStep]
      congr 1
      refine Traced.traverseFrom_congr fun index raw hmem => ?_
      rw [hagree items raw (Json.depth_lt_of_mem_items hmem)]
    | _ => rfl
  | object o => exact ObjectOf.read_congr o hagree
  | ref r =>
    simp only [readStep]
    congr 1
    funext o
    exact ObjectOf.read_congr o hagree
  | oneOf c =>
    simp only [readStep, OneOf.read]
    cases input with
    | object entries =>
      dsimp only
      repeat' split
      all_goals try rfl
      congr 1
      funext _
      congr 1
      funext o
      rw [ObjectOf.read_congr o hagree]
    | _ => rfl
  | scope s =>
    simp only [readStep]
    split
    · exact ObjectOf.read_congr _ hagree
    · rfl
  | _ => cases input <;> rfl

/-- The depth limit of reading does not matter as long as the document keeps to it. -/
theorem readWithin_eq {registry : Registry} {default : Reader} {limit : Nat} {shape : Shape}
    {input : Json} (hlimit : input.depth ≤ limit) :
    readWithin registry default limit shape input =
      readWithin registry default input.depth shape input := by
  induction hdepth : input.depth using Nat.strongRecOn generalizing shape input limit with
  | _ depth ih =>
    subst hdepth
    have hstep : ∀ bound, input.depth ≤ bound → readWithin registry default bound shape input =
        readStep registry (fun shape raw => readWithin registry default raw.depth shape raw)
          default shape input := by
      intro bound hbound
      cases bound with
      | zero => exact readStep_congr shape fun _ raw hraw => absurd hraw (by omega)
      | succ bound =>
        exact readStep_congr shape fun inner raw hraw => ih raw.depth hraw (by omega) rfl
    rw [hstep limit hlimit, hstep input.depth (Nat.le_refl _)]

/-- A document is read by reading its parts. -/
theorem readNested_eq (registry : Registry) (budget : Nat) (shape : Shape) (input : Json) :
    readNested registry budget shape input =
      readStep registry (readNested registry budget) (readDefault registry budget) shape input := by
  unfold readNested
  cases hdepth : input.depth with
  | zero => exact readStep_congr shape fun _ raw hraw => absurd hraw (by omega)
  | succ depth =>
    exact readStep_congr shape fun inner raw hraw => readWithin_eq (by omega)

/-- A default is read with what is left of the budget. -/
theorem readDefault_succ (registry : Registry) (budget : Nat) :
    readDefault registry (budget + 1) = readNested registry budget := rfl

theorem writeStep_congr {registry : Registry} {part other : Writer} (shape : Shape) {value : Value}
    (hagree : ∀ shape content, content.depth < value.depth → part shape content = other shape content) :
    writeStep registry part shape value = writeStep registry other shape value := by
  cases shape with
  | list items =>
    cases value with
    | list values =>
      simp only [writeStep]
      congr 1
      refine Traced.traverseFrom_congr fun index content hmem => ?_
      rw [hagree items content (Value.depth_lt_of_mem_items hmem)]
    | _ => rfl
  | object o => exact ObjectOf.write_congr o hagree
  | ref r =>
    simp only [writeStep]
    congr 1
    funext o
    exact ObjectOf.write_congr o hagree
  | oneOf c =>
    cases value with
    | oneOf key inner =>
      simp only [writeStep]
      split
      · rfl
      · rename_i target _
        rw [hagree (.ref target) inner (by rw [Value.depth]; omega)]
    | _ => rfl
  | scope s =>
    simp only [writeStep]
    split
    · exact ObjectOf.write_congr _ hagree
    · rfl
  | _ => cases value <;> rfl

/-- The depth limit of writing does not matter as long as the value keeps to it. -/
theorem writeWithin_eq {registry : Registry} {limit : Nat} {shape : Shape} {value : Value}
    (hlimit : value.depth ≤ limit) :
    writeWithin registry limit shape value = write registry shape value := by
  unfold write
  induction hdepth : value.depth using Nat.strongRecOn generalizing shape value limit with
  | _ depth ih =>
    subst hdepth
    have hstep : ∀ bound, value.depth ≤ bound → writeWithin registry bound shape value =
        writeStep registry (fun shape content => writeWithin registry content.depth shape content)
          shape value := by
      intro bound hbound
      cases bound with
      | zero => exact writeStep_congr shape fun _ content hcontent => absurd hcontent (by omega)
      | succ bound =>
        exact writeStep_congr shape fun inner content hcontent =>
          ih content.depth hcontent (by omega) rfl
    rw [hstep limit hlimit, hstep value.depth (Nat.le_refl _)]

/-- A value is written by writing its parts. -/
theorem write_eq (registry : Registry) (shape : Shape) (value : Value) :
    write registry shape value = writeStep registry (write registry) shape value := by
  rw [write]
  cases hdepth : value.depth with
  | zero => exact writeStep_congr shape fun _ content hcontent => absurd hcontent (by omega)
  | succ depth => exact writeStep_congr shape fun inner content hcontent => writeWithin_eq (by omega)

end Shape

end Shapes
