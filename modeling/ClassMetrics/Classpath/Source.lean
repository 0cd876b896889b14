import ClassMetrics.Classpath.Files

/-!
Where class files come from. A class source is a list of stores searched in order: a table of
class files by name, a directory of files, or an archive of entries. The first store that has
a class's file answers for it. A source also lists the classes it offers: every name of a
table, and every `.class` file of a directory or archive that is not metadata.
-/

namespace ClassMetrics

/-- The suffix of a class file's path. -/
def classSuffix : String := ".class"

/-- The class a file path stands for: the path without its `.class` suffix, unless it is
metadata (under `META-INF/`, or a module or package description). -/
def classNameOf (path : String) : Option String :=
  if path.endsWith classSuffix then
    let name := String.ofList (path.toList.take (path.length - classSuffix.length))
    if name.startsWith "META-INF/" || name.endsWith "module-info" || name.endsWith "package-info"
    then none else some name
  else none

/-- One place to look for class files. -/
inductive ClassStore
  /-- Class files by exact name; every name is offered. -/
  | table (classes : List (String × List UInt8))
  /-- A directory at a place of a tree: a class at `<name>.class` below it, the path followed
  through the tree as a file system follows it. -/
  | directory (tree : FileTree) (place : List String)
  /-- An archive: its entries by name, each with its bytes, or `none` when they cannot be
  read back. -/
  | archive (entries : List (String × Option (List UInt8)))
  deriving Inhabited

namespace ClassStore

/-- The class file of a name in this store. -/
def resolve (s : ClassStore) (name : String) : Option (List UInt8) :=
  match s with
  | .table cs => (cs.find? (·.1 == name)).map (·.2)
  | .directory t place => (t.locateFrom place (name ++ classSuffix)).bind t.fileAt?
  | .archive es => (es.find? (·.1 == name ++ classSuffix)).bind (·.2)

/-- The classes the store offers, in its own order. -/
def classNames (s : ClassStore) : List String :=
  match s with
  | .table cs => cs.map (·.1)
  | .directory t place => (t.belowAt place).filterMap fun f => classNameOf f.1
  | .archive es => es.filterMap fun e => classNameOf e.1

/-- The bytes of every file the store can read a class from; a directory reaches every file
of its tree, those outside it through `..`. -/
def bytes (s : ClassStore) : Nat :=
  match s with
  | .table cs => (cs.map (·.2.length)).sum
  | .directory t _ => (t.files.map (·.2.length)).sum
  | .archive es => (es.map fun e => (e.2.map List.length).getD 0).sum

end ClassStore

/-- Sorts names and keeps one of each. -/
def sortedDistinct (names : List String) : List String :=
  ((names.mergeSort fun a b => decide (a ≤ b)).foldr (fun n acc =>
    match acc with
    | m :: _ => if n == m then acc else n :: acc
    | [] => [n]) [])

/-- Stores searched in order. -/
abbrev ClassSource := List ClassStore

namespace ClassSource

/-- The class file of a name, from the first store that has one. -/
def resolve (s : ClassSource) (name : String) : Option (List UInt8) :=
  s.findSome? (·.resolve name)

/-- Every class the stores offer, sorted, each once. -/
def classNames (s : ClassSource) : List String :=
  sortedDistinct (s.flatMap ClassStore.classNames)

/-- A bound on the classes a chain of loads can read, each a class not read before. Every class
after the first is named as a supertype by a constant of the file read before it; a constant
takes three bytes at least, so there are no more names than a third of the bytes the stores can
read. Many names may read one file (`a/../A`, `./A` and `A` in a directory), so the files alone
do not bound the chain. -/
def size (s : ClassSource) : Nat := (s.map ClassStore.bytes).sum / 3 + 1

end ClassSource

end ClassMetrics
