import ClassMetrics.Prelude

/-!
Keys of resources, and the package and source file a class belongs to. A class is keyed by
its internal name (`tags/impl/Todo$Item`), a method by `class#name` followed by its descriptor,
and a field by `class#name`. Nested classes share the source file of their outermost class.
-/

namespace ClassMetrics.Key

/-- The key of a method. -/
def method (cls name descriptor : String) : String := cls ++ "#" ++ name ++ descriptor

/-- The key of a field. -/
def field (cls name : String) : String := cls ++ "#" ++ name

/-- Splits at the last `/`: the text before it and the text after it. -/
def splitLastSlash (cls : String) : Option (List Char × List Char) :=
  let cs := cls.toList
  let back := cs.reverse
  match back.dropWhile (· ≠ '/') with
  | [] => none
  | _ :: before => some (before.reverse, (back.takeWhile (· ≠ '/')).reverse)

/-- The package of a class: the text before the last `/`, or nothing. -/
def packageOf (cls : String) : String :=
  match splitLastSlash cls with
  | some (p, _) => String.ofList p
  | none => ""

/-- The source file of a class: its package, `/`, and its simple name up to the first `$`,
with `.java` appended. -/
def fileOf (cls : String) : String :=
  let (pkg, simple) := (splitLastSlash cls).getD ([], cls.toList)
  let outer := String.ofList (simple.takeWhile (· ≠ '$'))
  if pkg.isEmpty then outer ++ ".java" else String.ofList pkg ++ "/" ++ outer ++ ".java"

end ClassMetrics.Key
