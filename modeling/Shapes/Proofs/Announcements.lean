import Shapes.Proofs.Reading

/-!
What computations announce. Reading and writing announce the references that they resolve and the variants
that they select, and nothing else, wherever they end. In particular they run no code of a function.
-/

namespace Shapes

namespace Event

/-- Whether code that a function was bound with ran: its handler, or the resolver of its output. -/
def isUserCode : Event → Bool
  | .handlerInvoked _ => true
  | .resolverConsulted _ => true
  | _ => false

end Event

namespace Traced

variable {ε ε' α β : Type} {sort : Event → Prop}

/-- A property of logs that a log has if it is put together from logs that have it. -/
structure Joins (proper : List Event → Prop) : Prop where
  nil : proper []
  append : ∀ {before after}, proper before → proper after → proper (before ++ after)

namespace Joins

variable {proper : List Event → Prop} (hjoins : Joins proper)

include hjoins

theorem bind {x : Traced ε α} {f : α → Traced ε β} (hx : proper x.events)
    (hf : ∀ a, x.result = .ok a → proper (f a).events) : proper (x >>= f).events := by
  cases hresult : x.result with
  | error error =>
    rw [bind_of_error hresult]
    exact hx
  | ok a =>
    rw [bind_of_ok hresult]
    exact hjoins.append hx (hf a hresult)

theorem traverse {f : α → Traced ε β} {items : List α} (hf : ∀ a ∈ items, proper (f a).events) :
    proper (Traced.traverse f items).events := by
  induction items with
  | nil => exact hjoins.nil
  | cons a rest ih =>
    have hrest := ih fun item hitem => hf item (List.mem_cons_of_mem _ hitem)
    refine hjoins.bind (hf a (List.mem_cons_self ..)) fun b _ => hjoins.bind hrest ?_
    exact fun _ _ => hjoins.nil

theorem traverseFrom {f : Nat → α → Traced ε β} {items : List α} {index : Nat}
    (hf : ∀ i, ∀ a ∈ items, proper (f i a).events) : proper (Traced.traverseFrom f index items).events := by
  induction items generalizing index with
  | nil => exact hjoins.nil
  | cons a rest ih =>
    have hrest : proper (Traced.traverseFrom f (index + 1) rest).events :=
      ih fun i item hitem => hf i item (List.mem_cons_of_mem _ hitem)
    refine hjoins.bind (hf index a (List.mem_cons_self ..)) fun b _ => hjoins.bind hrest ?_
    exact fun _ _ => hjoins.nil

end Joins

/-- All events that a computation announces are of one sort. -/
def AnnouncesOnly (sort : Event → Prop) (x : Traced ε α) : Prop :=
  ∀ event ∈ x.events, sort event

theorem joins_forall (sort : Event → Prop) : Joins fun events => ∀ event ∈ events, sort event where
  nil := nofun
  append hbefore hafter event hmem := (List.mem_append.1 hmem).elim (hbefore event) (hafter event)

namespace AnnouncesOnly

theorem pure (a : α) : AnnouncesOnly sort (Pure.pure a : Traced ε α) := by
  intro event hmem
  cases hmem

theorem fail (error : ε) : AnnouncesOnly sort (Traced.fail error : Traced ε α) := by
  intro event hmem
  cases hmem

theorem ofExcept (result : Except ε α) : AnnouncesOnly sort (Traced.ofExcept result) := by
  intro event hmem
  cases hmem

theorem announce {event : Event} (hsort : sort event) :
    AnnouncesOnly sort (Traced.announce event : Traced ε Unit) := by
  intro other hmem
  obtain rfl := List.mem_singleton.1 hmem
  exact hsort

theorem bind {x : Traced ε α} {f : α → Traced ε β} (hx : AnnouncesOnly sort x)
    (hf : ∀ a, x.result = .ok a → AnnouncesOnly sort (f a)) : AnnouncesOnly sort (x >>= f) :=
  (joins_forall sort).bind hx hf

theorem mapError {f : ε → ε'} {x : Traced ε α} (hx : AnnouncesOnly sort x) :
    AnnouncesOnly sort (x.mapError f) :=
  hx

theorem traverse {f : α → Traced ε β} {items : List α} (hf : ∀ a ∈ items, AnnouncesOnly sort (f a)) :
    AnnouncesOnly sort (Traced.traverse f items) :=
  (joins_forall sort).traverse hf

theorem traverseFrom {f : Nat → α → Traced ε β} {items : List α} {index : Nat}
    (hf : ∀ i, ∀ a ∈ items, AnnouncesOnly sort (f i a)) :
    AnnouncesOnly sort (Traced.traverseFrom f index items) :=
  (joins_forall sort).traverseFrom hf

end AnnouncesOnly

end Traced

open Traced (AnnouncesOnly Joins)

/-- What conversions announce. -/
def Event.OfConversion : Event → Prop
  | .resolving _ => True
  | .dispatched _ _ _ => True
  | _ => False

theorem Event.OfConversion.isUserCode_eq_false {event : Event} (hevent : event.OfConversion) :
    event.isUserCode = false := by
  cases event <;> first | rfl | exact hevent.elim

theorem Reference.resolve_announces (registry : Registry) (r : Reference) :
    AnnouncesOnly Event.OfConversion (r.resolve registry) := by
  unfold resolve
  split
  · exact .fail _
  · refine .bind (.announce trivial) fun _ _ => ?_
    split
    · exact .fail _
    · exact .pure _

namespace ObjectOf

variable {o : ObjectShape}

/-- The log of reading an object is put together from those of reading its fields. -/
theorem log_read {proper : List Event → Prop} (hjoins : Joins proper) {part default : Reader}
    {tolerated : Option String} {input : Json}
    (hpart : ∀ field ∈ o.properties, ∀ raw, raw.depth < input.depth → proper (part field.2.shape raw).events)
    (hdefault : ∀ field ∈ o.properties, ∀ document, proper (default field.2.shape document).events) :
    proper (o.read part default tolerated input).events := by
  cases input with
  | object entries =>
    unfold read
    dsimp only
    split
    · exact hjoins.nil
    · refine hjoins.bind (hjoins.traverse fun field hmem => hjoins.bind ?_ fun _ _ => hjoins.nil)
        fun _ _ => hjoins.nil
      unfold readField
      split
      · rename_i raw hpresent
        split
        · exact hjoins.nil
        · exact hpart field hmem raw (Json.depth_lt_of_present? hpresent)
      · split
        · exact hjoins.nil
        · split
          · exact hdefault field hmem _
          · exact hjoins.nil
  | _ => exact hjoins.nil

/-- Writing an object announces what writing its fields announces. -/
theorem write_announces {part : Writer} {value : Value}
    (hpart : ∀ shape content, content.depth < value.depth →
      AnnouncesOnly Event.OfConversion (part shape content)) :
    AnnouncesOnly Event.OfConversion (o.write part value) := by
  cases value with
  | object id fields =>
    unfold write
    dsimp only
    split
    · split
      · exact .fail _
      · refine .bind (.traverse fun field hmem => ?_) fun _ _ => .pure _
        unfold writeField
        split
        · rename_i content hpresent
          split
          · exact .fail _
          · refine .bind (.mapError ?_) fun _ _ => .pure _
            exact hpart _ content (Value.depth_lt_of_present? hpresent)
        · split
          · exact .fail _
          · exact .pure _
    · exact .fail _
  | _ => exact .fail _

end ObjectOf

namespace Shape

section Reading

variable {registry : Registry} {root shape : Shape} {proper : List Event → Prop} (hjoins : Joins proper)
  (hresolve : ∀ r, root.Reaches registry (.ref r) → proper (r.resolve registry).events)
  (hdispatch : ∀ c key r, root.Reaches registry (.oneOf c) → (key, r) ∈ c.variants →
    proper (.dispatched c.field key r.id :: (r.resolve registry).events))

include hjoins hresolve hdispatch

/-- The log of reading one level is put together from those of resolving references, of selecting variants, which
are resolved at once, and of reading the parts and defaults. -/
theorem log_readStep {part default : Reader} {document : Json} (hreaches : root.Reaches registry shape)
    (hpart : ∀ inner raw, root.Reaches registry inner → raw.depth < document.depth →
      proper (part inner raw).events)
    (hdefault : ∀ inner raw, root.Reaches registry inner → proper (default inner raw).events) :
    proper (readStep registry part default shape document).events := by
  have hobject : ∀ {inner o tolerated}, root.Reaches registry inner → inner.object? registry = some o →
      proper (o.read part default tolerated document).events := by
    intro inner o tolerated hinner ho
    exact ObjectOf.log_read hjoins (fun field hmem raw => hpart _ raw (.field hinner ho hmem))
      fun field hmem raw => hdefault _ raw (.field hinner ho hmem)
  cases shape with
  | list items =>
    cases document with
    | array inputs =>
      refine hjoins.bind (hjoins.traverseFrom fun index input hmem => ?_) fun _ _ => hjoins.nil
      exact hpart items input (.item hreaches) (Json.depth_lt_of_mem_items hmem)
    | _ => exact hjoins.nil
  | object o => exact hobject hreaches rfl
  | ref r =>
    refine hjoins.bind (hresolve r hreaches) fun o ho => hobject hreaches ?_
    exact Reference.resolve_budgeted_eq_ok_iff.1 ho
  | scope s =>
    simp only [readStep]
    split
    · rename_i o hroot
      exact hobject hreaches hroot
    · exact hjoins.nil
  | oneOf c =>
    cases document with
    | object entries =>
      simp only [readStep, OneOf.read]
      split
      · exact hjoins.nil
      · split
        · exact hjoins.nil
        · split
          · exact hjoins.nil
          · rename_i key _ _ r hselected
            have hvariant := OneOf.mem_of_target? hselected
            -- The variant is selected and resolved in one block, and then read.
            rw [← bind_assoc]
            refine hjoins.bind (hdispatch c key r hreaches hvariant) fun o ho =>
              hjoins.bind (hobject (hreaches.variant hvariant) ?_) fun _ _ => hjoins.nil
            rw [Traced.result_bind, Traced.result_announce] at ho
            exact Reference.resolve_budgeted_eq_ok_iff.1 ho
    | _ => exact hjoins.nil
  | int =>
    cases document with
    | number n =>
      simp only [readStep]
      split <;> exact hjoins.nil
    | _ => exact hjoins.nil
  | any => exact hjoins.nil
  | _ => cases document <;> exact hjoins.nil

/-- The log of a reading is put together from those of resolving references and of selecting variants. -/
theorem log_readNested (hreaches : root.Reaches registry shape) (budget : Nat) (document : Json) :
    proper (readNested registry budget shape document).events := by
  induction budget, shape, document using readNested_induction with
  | hstep budget shape document ihPart ihDefault =>
    rw [readNested_eq]
    have hpart : ∀ inner raw, root.Reaches registry inner → raw.depth < document.depth →
        proper (readNested registry budget inner raw).events := fun inner raw hinner hlt => ihPart inner raw hlt hinner
    refine log_readStep hjoins hresolve hdispatch hreaches hpart fun inner raw hinner => ?_
    cases budget with
    | zero => exact hjoins.nil
    | succ budget =>
      rw [readDefault_succ]
      exact ihDefault budget (Nat.lt_succ_self _) inner raw hinner

end Reading

variable {registry : Registry}

/-- Reading announces nothing but resolutions and selections. -/
theorem readNested_announces (budget : Nat) (shape : Shape) (document : Json) :
    AnnouncesOnly Event.OfConversion (readNested registry budget shape document) := by
  refine log_readNested (Traced.joins_forall _) (fun r _ => r.resolve_announces registry) ?_ .refl budget document
  intro c key r _ _ event hmem
  rcases List.mem_cons.1 hmem with rfl | hmem
  · trivial
  · exact r.resolve_announces registry event hmem

theorem write_announces (shape : Shape) (value : Value) :
    AnnouncesOnly Event.OfConversion (write registry shape value) := by
  induction hdepth : value.depth using Nat.strongRecOn generalizing shape value with
  | _ depth ih =>
    subst hdepth
    have hobject : ∀ o : ObjectShape, AnnouncesOnly Event.OfConversion (o.write (write registry) value) :=
      fun o => ObjectOf.write_announces fun inner content hlt => ih content.depth hlt inner content rfl
    rw [write_eq]
    cases shape with
    | list items =>
      cases value with
      | list values =>
        refine .bind (.traverseFrom fun index item hmem => .mapError ?_) fun _ _ => .pure _
        exact ih item.depth (Value.depth_lt_of_mem_items hmem) items item rfl
      | _ => exact .fail _
    | object o => exact hobject o
    | ref r => exact .bind (r.resolve_announces registry) fun o _ => hobject o
    | scope s =>
      simp only [writeStep]
      split
      · exact hobject _
      · exact .fail _
    | oneOf c =>
      cases value with
      | oneOf key content =>
        simp only [writeStep]
        split
        · exact .fail _
        · have hless : content.depth < (Value.oneOf key content).depth := by
            rw [Value.depth]
            omega
          exact .bind (ih content.depth hless _ content rfl) fun _ _ => .ofExcept _
      | _ => exact .fail _
    | float =>
      cases value with
      | float x =>
        simp only [writeStep]
        split
        · exact .pure _
        · exact .fail _
      | _ => exact .fail _
    | any => exact .pure _
    | _ =>
      cases value <;> first
        | exact .pure _
        | exact .fail _

end Shape

end Shapes
