import Shapes.Proofs.Scope.Lifetime

/-!
Building a shape from a schema, as a part of a run: the scopes in it are frozen one by one, each from what can
be had by then, and the shape can be had at the end. So what is true of runs is true of built shapes.
-/

namespace Shapes

theorem Reference.resolve_of_freeze {registry later : Registry} {root : String}
    {objects : List ObjectShape} {scope : Scope} {r : Reference} {o : ObjectShape}
    (hfreeze : (registry.freeze root objects).result = .ok (scope, later))
    (hresolve : (r.resolve registry).result = .ok o) : (r.resolve later).result = .ok o := by
  obtain ⟨-, -, rfl⟩ := Registry.freeze_eq_ok_iff.1 hfreeze
  rw [resolve_eq_ok_iff, target?, scope?, Option.bind_eq_some_iff] at hresolve ⊢
  obtain ⟨s, hscope, hobject⟩ := hresolve
  refine ⟨s, ?_, hobject⟩
  obtain ⟨handle, hhandle, hfind⟩ := Option.bind_eq_some_iff.1 hscope
  rw [Registry.find?] at hfind
  rw [hhandle, Option.bind_some, Registry.find?, List.find?_append, hfind, Option.some_or]

namespace Moment

variable {m : Moment} {shape : Shape}

/-- What can be had can still be had when a scope has been frozen. -/
theorem Obtains.froze {root : String} {objects : List ObjectShape} {scope : Scope} {later : Registry}
    (hfreeze : (m.registry.freeze root objects).result = .ok (scope, later)) (hobtains : m.Obtains shape) :
    (m.froze scope later).Obtains shape := by
  induction hobtains with
  | has hhas => exact .has (has_froze_iff.2 (Or.inl hhas))
  | any => exact .any
  | bool => exact .bool
  | int => exact .int
  | float => exact .float
  | string => exact .string
  | list _ ih => exact .list ih
  | object hdistinct _ ih => exact .object hdistinct ih
  | ref => exact .ref
  | relabelled _ ih => exact .relabelled ih
  | oneOf _ ih => exact .oneOf ih
  | items _ ih => exact .items ih
  | property _ hmem ih => exact .property ih hmem
  | variant _ hmem ih => exact .variant ih hmem
  | member _ hmem ih => exact .member ih hmem
  | target _ hresolve ih => exact .target ih (Reference.resolve_of_freeze hfreeze hresolve)

/-- A moment comes after another, and only freezing led to it. -/
structure Grows (m later : Moment) : Prop where
  run : Relation.ReflTransGen Step m later
  workspace : later.workspace = { m.workspace with registry := later.registry }
  keeps : ∀ shape, m.Obtains shape → later.Obtains shape

theorem Grows.refl (m : Moment) : m.Grows m :=
  ⟨.refl, rfl, fun _ hobtains => hobtains⟩

theorem Grows.trans {between later : Moment} (hfirst : m.Grows between) (hsecond : between.Grows later) :
    m.Grows later := by
  refine ⟨hfirst.run.trans hsecond.run, ?_, fun shape hobtains =>
    hsecond.keeps shape (hfirst.keeps shape hobtains)⟩
  rw [hsecond.workspace, hfirst.workspace]

theorem grows_froze {root : String} {objects : List ObjectShape} {scope : Scope} {later : Registry}
    (hobjects : ∀ o ∈ objects, m.Obtains (.object o))
    (hfreeze : (m.registry.freeze root objects).result = .ok (scope, later)) :
    m.Grows (m.froze scope later) :=
  ⟨.single (.freeze hobjects hfreeze), rfl, fun _ hobtains => hobtains.froze hfreeze⟩

theorem obtains_of_plain (hplain : shape.Plain) : m.Obtains shape := by
  cases hplain with
  | any => exact .any
  | bool => exact .bool
  | int => exact .int
  | float => exact .float
  | string => exact .string
  | ref => exact .ref
  | @oneOf c hunbound =>
    refine .oneOf fun variant hmem => ?_
    have hnone := hunbound variant hmem
    obtain ⟨key, id, label, scope⟩ := variant
    cases hnone
    exact .ref

/-- What is built can be had, at a moment to which only freezing led. -/
def building : BuildInvariant Moment where
  registry := registry
  Grows := Grows
  Holds := Obtains
  refl := Grows.refl
  trans := Grows.trans
  keeps hgrows := hgrows.keeps _
  plain := obtains_of_plain
  list := .list
  object := .object
  freeze hobjects hfreeze := ⟨_, rfl, grows_froze hobjects hfreeze,
    .has (.hand (List.mem_append_right _ (List.mem_singleton_self _)))⟩

/-- Storing a shape that is built from a schema, under any name, is a run. -/
theorem exists_run_of_build {schema : Schema} {later : Registry} (name : String)
    (hbuild : (schema.build m.registry).result = .ok (shape, later)) :
    ∃ last, Relation.ReflTransGen Step m last ∧
      last.workspace = (({ m.workspace with registry := later }).putShape name shape).settle := by
  obtain ⟨between, rfl, hgrows, hobtains⟩ := building.follows schema _ _ _ hbuild
  refine ⟨_, hgrows.run.tail (.store name hobtains), ?_⟩
  rw [settled, hgrows.workspace]
  rfl

end Moment

end Shapes
