import ClassMetrics.Classpath.Files
import ClassMetrics.Classpath.Source
import ClassMetrics.Archive.Zip

/-!
A classpath from paths: a directory is read as a directory of class files, any other file that
opens as an archive as an archive. A path that does not exist, a single `.class` file, and a file
that is no archive are left out.
-/

namespace ClassMetrics

/-- The entries of a classpath that opened, each with its path. -/
structure Classpath where
  entries : List (String × ClassStore)
  deriving Inhabited

/-- The store a path opens as, if any. -/
def FileTree.storeAt? (t : FileTree) (path : String) : Option ClassStore := do
  let place ← t.locate path
  if t.isDirAt place then some (.directory t place)
  else
    let bytes ← t.fileAt? place
    if extension? (FileTree.fileName path) == some "class" then none
    else (Zip.read bytes).map .archive

namespace Classpath

/-- The classpath of some paths, in their order. -/
def ofPaths (t : FileTree) (paths : List String) : Classpath :=
  ⟨paths.filterMap fun p => (t.storeAt? p).map (p, ·)⟩

/-- The stores of the classpath, searched in order. -/
def source (cp : Classpath) : ClassSource := cp.entries.map (·.2)

/-- Whether no entry opened. -/
def isEmpty (cp : Classpath) : Bool := cp.entries.isEmpty

end Classpath

/-- Whether a store reads a directory or an archive. -/
def ClassStore.kind : ClassStore → String
  | .directory _ _ => "dir"
  | .archive _ => "archive"
  | .table _ => "table"

end ClassMetrics
