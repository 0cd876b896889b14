import ClassMetrics.Prelude

/-!
The metrics this library measures, in their fixed order, with the key that names each and
how a metric's value at a node is obtained from the values below it: summed, calculated by
the engine, or a distribution of class values.
-/

namespace ClassMetrics

/-- A metric, in report order. -/
inductive Metric
  | lines
  | ncloc
  | statements
  | complexity
  | packages
  | files
  | classes
  | functions
  | accessors
  | dit
  | noc
  | rfc
  | lcom4
  | lcom4Blocks
  | ca
  | ce
  | suspectLcom4Density
  | fileEdgesWeight
  | packageEdgesWeight
  | fileCycles
  | packageCycles
  | rfcDistribution
  | lcom4Distribution
  deriving DecidableEq, Repr, Inhabited

/-- How a metric's value at a node comes about. -/
inductive Aggregation
  /-- The sum of the values of the node's children, unless the node has its own. -/
  | sum
  /-- Computed by the engine. -/
  | calculated
  /-- A histogram of class values. -/
  | distribution
  deriving DecidableEq, Repr

namespace Metric

/-- Every metric, in report order. -/
def all : List Metric :=
  [.lines, .ncloc, .statements, .complexity, .packages, .files, .classes, .functions,
    .accessors, .dit, .noc, .rfc, .lcom4, .lcom4Blocks, .ca, .ce, .suspectLcom4Density,
    .fileEdgesWeight, .packageEdgesWeight, .fileCycles, .packageCycles, .rfcDistribution,
    .lcom4Distribution]

/-- The metrics that are summed up the tree, in report order. -/
def summed : List Metric :=
  [.lines, .ncloc, .statements, .complexity, .packages, .files, .classes, .functions, .accessors]

/-- The position of a metric in report order. -/
def index (m : Metric) : Nat := all.idxOf m

/-- The key that names a metric. -/
def key : Metric → String
  | .lines => "lines"
  | .ncloc => "ncloc"
  | .statements => "statements"
  | .complexity => "complexity"
  | .packages => "packages"
  | .files => "files"
  | .classes => "classes"
  | .functions => "functions"
  | .accessors => "accessors"
  | .dit => "dit"
  | .noc => "noc"
  | .rfc => "rfc"
  | .lcom4 => "lcom4"
  | .lcom4Blocks => "lcom4_blocks"
  | .ca => "ca"
  | .ce => "ce"
  | .suspectLcom4Density => "suspect_lcom4_density"
  | .fileEdgesWeight => "file_edges_weight"
  | .packageEdgesWeight => "package_edges_weight"
  | .fileCycles => "file_cycles"
  | .packageCycles => "package_cycles"
  | .rfcDistribution => "rfc_distribution"
  | .lcom4Distribution => "lcom4_distribution"

/-- The metric a key names. -/
def ofKey? (k : String) : Option Metric := all.find? (·.key = k)

/-- How a metric's value is obtained. -/
def kind : Metric → Aggregation
  | .lines | .ncloc | .statements | .complexity | .packages | .files | .classes | .functions
  | .accessors => .sum
  | .rfcDistribution | .lcom4Distribution => .distribution
  | _ => .calculated

end Metric

/-- The name of an aggregation kind in reports. -/
def Aggregation.name : Aggregation → String
  | .sum => "Sum"
  | .calculated => "Calculated"
  | .distribution => "Distribution"

end ClassMetrics
