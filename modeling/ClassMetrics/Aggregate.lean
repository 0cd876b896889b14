import ClassMetrics.Tree.Basic
import ClassMetrics.Dependency
import ClassMetrics.Config.Basic

/-!
Aggregation: from measures at the leaves of a source tree to measures at every level.

* Each method, class, file and package counts one of its kind.
* A summed metric that a node lacks is the sum of its children's values, an integer when all
  are integers; a value that is not a number among them drops the sum.
* Afferent and efferent coupling of classes, files and packages come from the dependencies.
* A file takes the largest integer RFC and LCOM4 of its classes. A package and the project
  take the mean of those file values, the share of files whose LCOM4 exceeds one, and the
  distributions of the class values.
* A package counts the weight and the cycles of the dependencies among its files; the project
  those among all packages.
-/

namespace ClassMetrics

/-- What a package or the project gathers from its files. -/
structure Rollup where
  rfcSum : Float := 0
  rfcFiles : Nat := 0
  lcom4Sum : Float := 0
  lcom4Files : Nat := 0
  suspectFiles : Nat := 0
  rfcDistribution : Distribution
  lcom4Distribution : Distribution

namespace Rollup

/-- Nothing gathered yet. -/
def empty (c : EngineConfig) : Rollup :=
  { rfcDistribution := .empty c.rfcDistributionLimits
    lcom4Distribution := .empty c.lcom4DistributionLimits }

/-- Adds what another rollup gathered. -/
def merge (a b : Rollup) : Rollup :=
  { rfcSum := a.rfcSum + b.rfcSum
    rfcFiles := a.rfcFiles + b.rfcFiles
    lcom4Sum := a.lcom4Sum + b.lcom4Sum
    lcom4Files := a.lcom4Files + b.lcom4Files
    suspectFiles := a.suspectFiles + b.suspectFiles
    rfcDistribution := a.rfcDistribution.merge b.rfcDistribution
    lcom4Distribution := a.lcom4Distribution.merge b.lcom4Distribution }

/-- Writes the means, the share of suspect files and the distributions to a node. -/
def store (r : Rollup) (t : SourceTree) (id : Nat) : SourceTree :=
  let t := if r.rfcFiles > 0 then
      t.setMeasure id .rfc (.double (r.rfcSum / Float.ofNat r.rfcFiles))
    else t
  let t := if r.lcom4Files > 0 then
      let t := t.setMeasure id .lcom4 (.double (r.lcom4Sum / Float.ofNat r.lcom4Files))
      t.setMeasure id .suspectLcom4Density
        (.double (100.0 * Float.ofNat r.suspectFiles / Float.ofNat r.lcom4Files))
    else t
  let t := t.setMeasure id .rfcDistribution (.distribution r.rfcDistribution)
  t.setMeasure id .lcom4Distribution (.distribution r.lcom4Distribution)

end Rollup

namespace SourceTree

/-- Each method, class, file and package counts one of its kind. -/
def setLeafCounts (t : SourceTree) : SourceTree :=
  [(Scope.method, Metric.functions), (.cls, .classes), (.file, .files), (.package, .packages)].foldl
    (fun t (s, m) => (t.ids s).foldl (fun t id => t.setMeasure id m (.int 1)) t) t

/-- The sum of values in order: the first as it is, then each added to it; nothing for no
values or when an addition meets a value that is not a number. -/
def sumValues : List MeasureValue → Option MeasureValue
  | [] => none
  | v :: vs => vs.foldlM MeasureValue.add v

/-- Fills a summed metric from the children at one node, unless the node has it. -/
def sumAt (t : SourceTree) (id : Nat) (m : Metric) : SourceTree :=
  if (t.measure? id m).isSome then t
  else
    let values := (t.node id).children.toList.filterMap fun c => t.measure? c m
    match sumValues values with
    | some total => t.setMeasure id m total
    | none => t

/-- Fills every summed metric, children before parents. -/
def sumUp (t : SourceTree) : SourceTree :=
  t.postOrder.foldl (fun t id => Metric.summed.foldl (fun t m => t.sumAt id m) t) t

/-- Sets afferent and efferent coupling at the class, file and package levels. -/
def setCoupling (t : SourceTree) (deps : DependencyGraph) : SourceTree :=
  [Scope.cls, .file, .package].foldl (fun t s =>
    (t.ids s).foldl (fun t id =>
      let key := (t.node id).key
      let t := t.setMeasure id .ca (.int (deps.afferent s key))
      t.setMeasure id .ce (.int (deps.efferent s key))) t) t

/-- The larger of an optional integer and an integer. -/
def maxInto (acc : Option Int) (v : Int) : Option Int :=
  match acc with
  | some a => some (max a v)
  | none => some v

/-- Sets a file's RFC and LCOM4 to the largest integer values of its classes, and adds the file
to the rollup of its package. -/
def rollupFile (c : EngineConfig) (t : SourceTree) (r : Rollup) (file : Nat) : SourceTree × Rollup :=
  let classes := (t.node file).children.toList
  let rfcs := classes.filterMap fun k => (t.measure? k .rfc).bind MeasureValue.asInt?
  let lcom4s := classes.filterMap fun k => (t.measure? k .lcom4).bind MeasureValue.asInt?
  let r := { r with
    rfcDistribution := r.rfcDistribution.merge
      (rfcs.foldl Distribution.add (.empty c.rfcDistributionLimits))
    lcom4Distribution := r.lcom4Distribution.merge
      (lcom4s.foldl Distribution.add (.empty c.lcom4DistributionLimits)) }
  let (t, r) := match rfcs.foldl maxInto none with
    | some v => (t.setMeasure file .rfc (.int v),
        { r with rfcSum := r.rfcSum + MeasureValue.intToFloat v, rfcFiles := r.rfcFiles + 1 })
    | none => (t, r)
  match lcom4s.foldl maxInto none with
  | some v => (t.setMeasure file .lcom4 (.int v),
      { r with lcom4Sum := r.lcom4Sum + MeasureValue.intToFloat v, lcom4Files := r.lcom4Files + 1,
               suspectFiles := r.suspectFiles + (if v > 1 then 1 else 0) })
  | none => (t, r)

/-- Rolls up one package: its files, its means, and the dependencies among its files. -/
def rollupPackage (c : EngineConfig) (deps : DependencyGraph) (t : SourceTree) (pkg : Nat) :
    SourceTree × Rollup :=
  let files := (t.node pkg).children.toList
  let (t, r) := files.foldl (fun (t, r) f => rollupFile c t r f) (t, Rollup.empty c)
  let t := r.store t pkg
  let keys := files.map fun f => (t.node f).key
  let within := fun k => keys.contains k
  let t := t.setMeasure pkg .fileEdgesWeight (.int (deps.internalWeight .file within))
  (t.setMeasure pkg .fileCycles (.int (deps.cycles .file within)), r)

/-- Aggregates every measure of the tree. -/
def aggregate (t : SourceTree) (deps : DependencyGraph) (c : EngineConfig) : SourceTree :=
  let t := t.setLeafCounts.sumUp.setCoupling deps
  let (t, project) := (t.ids .package).foldl (fun (t, project) pkg =>
    let (t, r) := rollupPackage c deps t pkg
    (t, project.merge r)) (t, Rollup.empty c)
  let t := project.store t 0
  let t := t.setMeasure 0 .packageEdgesWeight (.int (deps.internalWeight .package fun _ => true))
  t.setMeasure 0 .packageCycles (.int (deps.cycles .package fun _ => true))

end SourceTree

end ClassMetrics
