/-!
Native representations: what kind of value a shape produces and a handler parameter takes.
-/

namespace Shapes

inductive Representation where
  | any
  | bool
  | int
  | float
  | string
  | list (item : Representation)
  /-- An object declared under the given id. -/
  | object (id : String)
deriving DecidableEq

namespace Representation

/-- Text of a representation, such as `list<int>`. -/
def text : Representation → String
  | .any => "any"
  | .bool => "bool"
  | .int => "int"
  | .float => "float"
  | .string => "string"
  | .list item => "list<" ++ item.text ++ ">"
  | .object id => "object<" ++ id ++ ">"

end Representation

end Shapes
