import Shapes.Function.Declaration

/-!
A workspace: named shapes, values, functions and declarations, and the scopes that they keep alive.
A scope lives as long as something stored owns it; whatever is dropped or overwritten lets go of its
scopes when the workspace is settled.
-/

namespace Shapes

namespace BoundFunction

/-- The handles of the scopes a function owns. -/
def handles (f : BoundFunction) : List Handle :=
  f.shapes.flatMap Shape.handles

end BoundFunction

namespace Declaration

/-- The handles of the scopes a declaration owns. -/
def handles (d : Declaration) : List Handle :=
  d.shapes.flatMap Shape.handles

end Declaration

/-- A stored function with the log of its user code. -/
structure StoredFunction where
  function : BoundFunction
  log : List String

/-- Named things and the scopes they keep alive. -/
structure Workspace where
  registry : Registry := {}
  shapes : Fields Shape := []
  values : Fields Value := []
  functions : Fields StoredFunction := []
  declarations : Fields Declaration := []
  /-- Log records that were not collected yet, oldest first. -/
  records : List LogRecord := []

namespace Workspace

/-- The handles of the scopes that stored things own. -/
def handles (workspace : Workspace) : List Handle :=
  workspace.shapes.flatMap (fun entry => entry.2.handles) ++
    workspace.functions.flatMap (fun entry => entry.2.function.handles) ++
    workspace.declarations.flatMap (fun entry => entry.2.handles)

/-- Lets go of the scopes that nothing stored owns. -/
def settle (workspace : Workspace) : Workspace :=
  { workspace with registry := workspace.registry.retain workspace.handles }

def putShape (workspace : Workspace) (name : String) (shape : Shape) : Workspace :=
  { workspace with shapes := Fields.insert name shape workspace.shapes }

def putValue (workspace : Workspace) (name : String) (value : Value) : Workspace :=
  { workspace with values := Fields.insert name value workspace.values }

/-- Stores a function with an empty log. -/
def putFunction (workspace : Workspace) (name : String) (f : BoundFunction) (log : List String) :
    Workspace :=
  { workspace with functions := Fields.insert name ⟨f, log⟩ workspace.functions }

def putDeclaration (workspace : Workspace) (name : String) (d : Declaration) : Workspace :=
  { workspace with declarations := Fields.insert name d workspace.declarations }

/-- Whether a shape or a function of that name is stored. -/
def holds (workspace : Workspace) (name : String) : Bool :=
  workspace.shapes.has name || workspace.functions.has name

/-- Removes the shape and the function of that name. -/
def drop (workspace : Workspace) (name : String) : Workspace :=
  { workspace with
    shapes := Fields.erase name workspace.shapes
    functions := Fields.erase name workspace.functions }

/-- Removes the declaration of that name. -/
def dropDeclaration (workspace : Workspace) (name : String) : Workspace :=
  { workspace with declarations := Fields.erase name workspace.declarations }

/-- Keeps the log records among events. -/
def record (workspace : Workspace) (events : List Event) : Workspace :=
  { workspace with records := workspace.records ++ events.filterMap Event.record? }

/-- Adds to the log of a stored function what its user code left among events. -/
def note (workspace : Workspace) (name : String) (events : List Event) : Workspace :=
  match workspace.functions.get? name with
  | none => workspace
  | some stored =>
    let log := stored.log ++ events.filterMap Event.note?
    { workspace with functions := Fields.insert name ⟨stored.function, log⟩ workspace.functions }

/-- Takes out the log records kept so far. -/
def collect (workspace : Workspace) : List LogRecord × Workspace :=
  (workspace.records, { workspace with records := [] })

end Workspace

end Shapes
