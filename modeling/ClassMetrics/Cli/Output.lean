import ClassMetrics.Analysis.Report
import ClassMetrics.Pattern.Match
import ClassMetrics.Json.Print

/-!
What the command line prints: a table of class measures with the project's summary, the
dependencies of one level, the cohesion blocks of one class, and the virtual dispatch links.
Each report is framed by rules of 80 characters; a filter keeps the rows whose key it matches
somewhere. Widths count characters.
-/

namespace ClassMetrics.Cli

open ClassMetrics.Json

/-- A rule of 80 copies of a character. -/
def rule (c : Char) : String := String.ofList (List.replicate 80 c)

/-- A text padded on the right to a width. -/
def padRight (s : String) (width : Nat) : String :=
  s ++ String.ofList (List.replicate (width - s.length) ' ')

/-- A text padded on the left to a width. -/
def padLeft (s : String) (width : Nat) : String :=
  String.ofList (List.replicate (width - s.length) ' ') ++ s

/-- A key cut to a width: a longer key keeps its last characters after an ellipsis. -/
def truncate (key : String) (width : Nat) : String :=
  if key.length ≤ width then key
  else "…" ++ String.ofList (key.toList.drop (key.length - (width - 1)))

/-- Whether a key passes an optional filter. -/
def passes (filter : Option Pattern.Program) (key : String) : Bool :=
  filter.all (·.isMatch key)

/-- The columns of the class table. -/
def classColumns : List Metric := [.dit, .noc, .rfc, .lcom4, .ca, .ce, .functions, .accessors]

/-- The heading of a column. -/
def columnLabel : Metric → String
  | .functions => "fn"
  | .accessors => "acc"
  | .lcom4 => "lcom"
  | m => m.key

/-- The project measures in the summary, in order. -/
def summaryRows : List Metric :=
  [.packages, .files, .classes, .functions, .rfc, .lcom4, .suspectLcom4Density,
   .packageEdgesWeight, .packageCycles, .rfcDistribution, .lcom4Distribution]

/-- Lines joined, each ended by a newline. -/
def linesOf (ls : List String) : String := String.join (ls.map (· ++ "\n"))

/-- The class table: one row per class of the tree, sorted by key, then the project summary. -/
def classTable (a : Analysis) (filter : Option Pattern.Program) : String :=
  let t := a.tree
  let ids := ((t.ids .cls).filter fun id => passes filter (t.node id).key).mergeSort
    fun x y => decide ((t.node x).key ≤ (t.node y).key)
  let row := fun id =>
    padRight (truncate (t.node id).key 39) 40 ++ String.join (classColumns.map fun m =>
      padLeft (((t.measure? id m).map MeasureValue.display).getD "-") 5)
  let summary := summaryRows.filterMap fun m =>
    (t.measure? 0 m).map fun v => "  " ++ padRight m.key 24 ++ " " ++ v.display
  linesOf ([rule '=', padRight "class" 40 ++ String.join (classColumns.map fun m => padLeft (columnLabel m) 5),
    rule '-'] ++ ids.map row ++ [rule '=', "Project: " ++ (t.node 0).key] ++ summary)

/-- The heading of a level of dependencies. -/
def levelHeading : Scope → String
  | .project => "Project"
  | .package => "Package"
  | .file => "File"
  | .cls => "Class"
  | .method => "Method"

/-- The dependencies of a level, sorted, kept when the filter matches either end. -/
def edgeList (a : Analysis) (level : Scope) (filter : Option Pattern.Program) : String :=
  let edges := (a.dependencies.edgesAt level).filter fun d =>
    passes filter d.source || passes filter d.target
  linesOf ([rule '=', levelHeading level ++ " dependencies", rule '='] ++ edges.map fun d =>
    d.source ++ " -> " ++ d.target ++ "  [" ++ d.usage.title ++ ", weight " ++ toString d.weight ++ "]")

/-- The cohesion blocks of a class, numbered from one. -/
def blockList (cls : String) (blocks : List (List String)) : String :=
  linesOf ([rule '=', cls ++ ": LCOM4 = " ++ toString blocks.length, rule '='] ++
    (blocks.zipIdx.flatMap fun (b, i) => ("Block " ++ toString (i + 1) ++ ":") :: b.map ("  " ++ ·)))

/-- The virtual dispatch links whose method the filter matches, with their implementations. -/
def overrideList (a : Analysis) (filter : Option Pattern.Program) : String :=
  linesOf ([rule '=', "Virtual dispatch links", rule '='] ++
    ((a.overrides.filter fun (m, _) => passes filter m).flatMap fun (m, impls) =>
      m :: impls.map ("  -> " ++ ·)))

/-- The report as indented JSON. -/
def reportText (a : Analysis) : String := a.reportJson.pretty 0 ++ "\n"

end ClassMetrics.Cli
