import Shapes.Shape.Basic

/-!
Walks over a shape. References are bound and checked down to nested scopes, which were bound and
checked when they were frozen; what a shape owns is collected through nested scopes as well.
-/

namespace Shapes

namespace Reference

/-- The reference bound to a scope, whatever it was bound to before. -/
def bind (handle : Handle) (reference : Reference) : Reference :=
  { reference with scope := some handle }

end Reference

namespace OneOf

/-- The choice with its references bound to a scope. -/
def bind (handle : Handle) (choice : OneOf) : OneOf where
  field := choice.field
  kind := choice.kind
  variants := choice.variants.map fun variant => (variant.1, variant.2.bind handle)
  uniform := by
    intro variant hmem
    obtain ⟨given, hgiven, rfl⟩ := List.mem_map.1 hmem
    exact choice.uniform given hgiven
  distinct := by
    have hkeys : (choice.variants.map fun variant => (variant.1, variant.2.bind handle)).map Prod.fst
        = choice.variants.map Prod.fst := by simp
    rw [hkeys]
    exact choice.distinct

end OneOf

namespace Shape

mutual

/-- The shape and all shapes inside it, from the outside in and in declaration order, without the
content of nested scopes. -/
def nodes : Shape → List Shape
  | .list items => .list items :: items.nodes
  | .object o => .object o :: objectNodes o
  | shape => [shape]
termination_by structural shape => shape

def objectNodes : ObjectOf Shape → List Shape
  | ⟨_, properties, _⟩ => propertiesNodes properties
termination_by structural object => object

def propertiesNodes : List (String × Property Shape) → List Shape
  | [] => []
  | (_, property) :: rest => propertyNodes property ++ propertiesNodes rest
termination_by structural properties => properties

def propertyNodes : Property Shape → List Shape
  | ⟨shape, _, _, _, _, _, _⟩ => shape.nodes
termination_by structural property => property

end

mutual

/-- The shape with its references bound to a scope. Nested scopes keep their own bindings. -/
def bind (handle : Handle) : Shape → Shape
  | .list items => .list (bind handle items)
  | .object o => .object (bindObject handle o)
  | .ref r => .ref (r.bind handle)
  | .oneOf c => .oneOf (c.bind handle)
  | shape => shape
termination_by structural shape => shape

def bindObject (handle : Handle) : ObjectOf Shape → ObjectOf Shape
  | ⟨id, properties, allowUnknown⟩ => ⟨id, bindProperties handle properties, allowUnknown⟩
termination_by structural object => object

def bindProperties (handle : Handle) :
    List (String × Property Shape) → List (String × Property Shape)
  | [] => []
  | (name, property) :: rest => (name, bindProperty handle property) :: bindProperties handle rest
termination_by structural properties => properties

def bindProperty (handle : Handle) : Property Shape → Property Shape
  | ⟨shape, required, default, requiredIf, requiredIfNot, conflicts, label⟩ =>
    ⟨bind handle shape, required, default, requiredIf, requiredIfNot, conflicts, label⟩
termination_by structural property => property

end

mutual

/-- The handles of the scopes a shape owns: those inside it, at any depth. References own nothing. -/
def handles : Shape → List Handle
  | .list items => items.handles
  | .object o => objectHandles o
  | .scope s => scopeHandles s
  | _ => []
termination_by structural shape => shape

def objectHandles : ObjectOf Shape → List Handle
  | ⟨_, properties, _⟩ => propertiesHandles properties
termination_by structural object => object

def propertiesHandles : List (String × Property Shape) → List Handle
  | [] => []
  | (_, property) :: rest => propertyHandles property ++ propertiesHandles rest
termination_by structural properties => properties

def propertyHandles : Property Shape → List Handle
  | ⟨shape, _, _, _, _, _, _⟩ => shape.handles
termination_by structural property => property

/-- The handle of a scope and the handles its objects own. -/
def scopeHandles : ScopeOf Shape → List Handle
  | ⟨handle, _, objects⟩ => handle :: objectsHandles objects
termination_by structural scope => scope

def objectsHandles : List (ObjectOf Shape) → List Handle
  | [] => []
  | o :: rest => objectHandles o ++ objectsHandles rest
termination_by structural objects => objects

end

mutual

/-- The defaults inside a shape, with the shapes they are read by. -/
def defaults : Shape → List (Shape × Json)
  | .list items => items.defaults
  | .object o => objectDefaults o
  | .scope s => scopeDefaults s
  | _ => []
termination_by structural shape => shape

def objectDefaults : ObjectOf Shape → List (Shape × Json)
  | ⟨_, properties, _⟩ => propertiesDefaults properties
termination_by structural object => object

/-- The defaults of fields and those inside them. -/
def propertiesDefaults : List (String × Property Shape) → List (Shape × Json)
  | [] => []
  | (_, property) :: rest => propertyDefaults property ++ propertiesDefaults rest
termination_by structural properties => properties

/-- The default of a field and those inside it. -/
def propertyDefaults : Property Shape → List (Shape × Json)
  | ⟨shape, _, some default, _, _, _, _⟩ => (shape, default) :: shape.defaults
  | ⟨shape, _, none, _, _, _, _⟩ => shape.defaults
termination_by structural property => property

def scopeDefaults : ScopeOf Shape → List (Shape × Json)
  | ⟨_, _, objects⟩ => objectsDefaults objects
termination_by structural scope => scope

def objectsDefaults : List (ObjectOf Shape) → List (Shape × Json)
  | [] => []
  | o :: rest => objectDefaults o ++ objectsDefaults rest
termination_by structural objects => objects

end

end Shape

end Shapes
