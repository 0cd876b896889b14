import ClassMetrics.Prelude

/-!
A tree of files seen from a working directory: each file by its relative path, and the
directories that exist even when empty. A path is followed part by part as a file system follows
it: empty parts and `.` stay where they are, `..` climbs back to the directory above, and any
other part steps into an entry. Every part but the last must lead to a directory that exists, so
`a/..` names the working directory only when `a` is a directory, and `f/` or `f/.` names nothing
when `f` is a file. A path that starts at the root, or climbs above the working directory, leaves
the tree and names nothing in it. The working directory itself is always a directory.
-/

namespace ClassMetrics

/-- The parts of a path as it is written, without empty parts and `.`; `none` when it starts at
the root or climbs with `..`. Files of a tree are stored under such paths. -/
def pathParts (path : String) : Option (List String) :=
  if path.startsWith "/" then none
  else
    let parts := (path.splitOn "/").filter fun p => p != "" && p != "."
    if parts.contains ".." then none else some parts

/-- The extension of a file name: what follows its last dot, unless that dot starts the name. -/
def extension? (name : String) : Option String :=
  let cs := name.toList
  match (cs.zipIdx.filter (·.1 == '.')).getLast? with
  | some (_, i) => if i == 0 then none else some (String.ofList (cs.drop (i + 1)))
  | none => none

/-- Files and directories below a working directory. -/
structure FileTree where
  files : List (String × List UInt8) := []
  dirs : List String := []
  deriving Inhabited

namespace FileTree

/-- The files by the parts of their paths. -/
def entries (t : FileTree) : List (List String × List UInt8) :=
  t.files.filterMap fun (p, b) => (pathParts p).map (·, b)

/-- Whether `outer` is a proper start of `inner`. -/
def isProperPrefix (outer inner : List String) : Bool :=
  outer.length < inner.length && inner.take outer.length == outer

/-- Whether a place is a directory: the working directory, a given directory or one above it,
or one above a file. -/
def isDirAt (t : FileTree) (parts : List String) : Bool :=
  parts.isEmpty || t.entries.any (isProperPrefix parts ·.1) ||
    t.dirs.any fun d => match pathParts d with
      | some ds => ds.take parts.length == parts && parts.length ≤ ds.length
      | none => false

/-- One step from a place: empty parts and `.` stay, `..` climbs, unless already at the
working directory, and a name steps into the entry it names. -/
def step (here : List String) (part : String) : Option (List String) :=
  if part == "" || part == "." then some here
  else if part == ".." then (if here.isEmpty then none else some here.dropLast)
  else some (here ++ [part])

/-- Follows the parts of a path from a place; every part but the last must reach a directory. -/
def follow (t : FileTree) (here : List String) : List String → Option (List String)
  | [] => some here
  | [last] => step here last
  | part :: rest => do
    let next ← step here part
    if t.isDirAt next then t.follow next rest else none

/-- The place a path names from a place in the tree: `none` when the path starts at the root,
leaves the tree, or passes through something that is not a directory. -/
def locateFrom (t : FileTree) (here : List String) (path : String) : Option (List String) :=
  if path.isEmpty || path.startsWith "/" then none else t.follow here (path.splitOn "/")

/-- The place a path names from the working directory. -/
def locate (t : FileTree) (path : String) : Option (List String) := t.locateFrom [] path

/-- The bytes of the file at a place. -/
def fileAt? (t : FileTree) (parts : List String) : Option (List UInt8) :=
  (t.entries.find? (·.1 == parts)).map (·.2)

/-- The bytes of the file at a path. -/
def read? (t : FileTree) (path : String) : Option (List UInt8) := (t.locate path).bind t.fileAt?

/-- Whether a path is a directory. -/
def isDir (t : FileTree) (path : String) : Bool := (t.locate path).any t.isDirAt

/-- The files below a place, by their paths from it. -/
def belowAt (t : FileTree) (parts : List String) : List (String × List UInt8) :=
  t.entries.filterMap fun (ps, b) =>
    if isProperPrefix parts ps then some ("/".intercalate (ps.drop parts.length), b) else none

/-- The name of the last part of a path, as written; empty when the path ends in `..` or names
no part. -/
def fileName (path : String) : String :=
  match ((path.splitOn "/").filter fun p => p != "" && p != ".").getLast? with
  | some ".." => ""
  | some name => name
  | none => ""

end FileTree

end ClassMetrics
