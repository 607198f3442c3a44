import Shapes.Registry
import Shapes.Shape.Object
import Shapes.Shape.Traversal

/-!
Freezing a scope: objects are checked against each other, their references are bound to the new
scope, and the scope becomes alive. The first fault in declaration order decides the error.
-/

namespace Shapes

namespace Shape

/-- What is wrong with a target of a choice among the objects of a scope, if something is: no such
object, or one whose own declaration of the discriminator field cannot hold the keys. -/
def targetFault? (objects : List ObjectShape) (choice : OneOf) (target : Reference) :
    Option BuildError :=
  match objects.find? (·.id == target.id) with
  | none => some (.unresolvedRef target.id)
  | some o =>
    match o.property? choice.field with
    | none => none
    | some property =>
      let declared := property.shape.representation
      if declared = choice.kind.representation ∨ declared = .any then none
      else some (.discriminatorConflict o.id choice.field declared choice.kind.representation)

/-- What is wrong with a shape among the objects of a scope, the shapes inside it apart. -/
def fault? (objects : List ObjectShape) : Shape → Option BuildError
  | .ref r => if objects.any (·.id == r.id) then none else some (.unresolvedRef r.id)
  | .oneOf c => c.variants.findSome? fun variant => targetFault? objects c variant.2
  | _ => none

end Shape

namespace Registry

/-- The first fault of objects that are to be frozen together. -/
def fault? (root : String) (objects : List ObjectShape) : Option BuildError :=
  match firstRepeated? [] (objects.map ObjectOf.id) with
  | some id => some (.duplicateObject id)
  | none =>
    if objects.any (·.id == root) then
      (objects.flatMap Shape.objectNodes).findSome? (Shape.fault? objects)
    else some (.unknownRoot root)

/-- Freezes objects into a scope. -/
def freeze (registry : Registry) (root : String) (objects : List ObjectShape) :
    Traced BuildError (Scope × Registry) :=
  match fault? root objects with
  | some error => .fail error
  | none => do
    let scope : Scope := ⟨registry.next, root, objects.map (Shape.bindObject registry.next)⟩
    Traced.announce (.scopeFrozen root objects.length)
    return (scope, ⟨registry.next + 1, registry.live ++ [scope]⟩)

end Registry

end Shapes
