import ClassMetrics.Prelude

/-!
The levels of a source tree: the project, its packages, their source files, the classes in a
file and the methods of a class. Each level but the last has the next one as its children.
-/

namespace ClassMetrics

/-- A level of the source tree. -/
inductive Scope
  | project
  | package
  | file
  /-- A class, interface or other type. -/
  | cls
  | method
  deriving DecidableEq, Repr, Inhabited

namespace Scope

/-- The level of the children of a node at this level. -/
def child? : Scope → Option Scope
  | .project => some .package
  | .package => some .file
  | .file => some .cls
  | .cls => some .method
  | .method => none

/-- The level's name in data. -/
def name : Scope → String
  | .project => "project"
  | .package => "package"
  | .file => "file"
  | .cls => "class"
  | .method => "method"

/-- The level a name stands for. -/
def ofName? : String → Option Scope
  | "project" => some .project
  | "package" => some .package
  | "file" => some .file
  | "class" => some .cls
  | "method" => some .method
  | _ => none

end Scope

end ClassMetrics
