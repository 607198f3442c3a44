import Shapes.Traced

/-!
The scopes that are alive. A reference resolves through the registry, so it fails as soon as its
scope is gone; handles are never used twice, so it cannot resolve in a later scope either.
-/

namespace Shapes

/-- The live scopes, and the handle that the next one gets. -/
structure Registry where
  next : Handle := 0
  live : List Scope := []

namespace Registry

/-- The live scope of that handle. -/
def find? (registry : Registry) (handle : Handle) : Option Scope :=
  registry.live.find? (·.handle == handle)

/-- Lets go of the scopes whose handles are not in `owned`. -/
def retain (registry : Registry) (owned : List Handle) : Registry :=
  { registry with live := registry.live.filter (owned.contains ·.handle) }

end Registry

namespace Reference

/-- The live scope the reference is bound to. -/
def scope? (reference : Reference) (registry : Registry) : Option Scope :=
  reference.scope.bind registry.find?

/-- The object a reference stands for: the one its scope declares under the id. -/
def resolve (registry : Registry) (reference : Reference) : Traced DataError ObjectShape :=
  match reference.scope? registry with
  | none => .fail (.unknownType reference.id)
  | some scope => do
    Traced.announce (.resolving reference.id)
    match scope.object? reference.id with
    | none => .fail (.unknownType reference.id)
    | some object => return object

end Reference

end Shapes
