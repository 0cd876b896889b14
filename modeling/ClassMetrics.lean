import ClassMetrics.Tree.Scope
import ClassMetrics.Metric.Basic
import ClassMetrics.Decimal.Shortest
import ClassMetrics.Decimal.Fixed
import ClassMetrics.Json.Basic
import ClassMetrics.Metric.Value
import ClassMetrics.Resource.Key
import ClassMetrics.Tree.Basic
import ClassMetrics.Usage
import ClassMetrics.Dependency
import ClassMetrics.Config.Toml
import ClassMetrics.Config.Basic
import ClassMetrics.Aggregate
import ClassMetrics.Text.Hex
import ClassMetrics.ClassFile.Error
import ClassMetrics.ClassFile.Cursor
import ClassMetrics.Text.ModifiedUtf8
import ClassMetrics.ClassFile.ConstantPool
import ClassMetrics.ClassFile.Descriptor
import ClassMetrics.ClassFile.Instruction
import ClassMetrics.ClassFile.Basic
import ClassMetrics.Graph.Resource
import ClassMetrics.Graph.Basic
import ClassMetrics.Graph.Accessor
import ClassMetrics.Graph.Cohesion
import ClassMetrics.Graph.Hierarchy
import ClassMetrics.Analysis.Measures
import ClassMetrics.ClassFile.Signature
import ClassMetrics.ClassFile.Decode
import ClassMetrics.Classpath.Files
import ClassMetrics.Classpath.Source
import ClassMetrics.Loader.Basic
import ClassMetrics.Loader.Build
import ClassMetrics.Graph.Link
import ClassMetrics.Analysis.Visitor
import ClassMetrics.Analysis.Basic
import ClassMetrics.ClassFile.ToJson
import ClassMetrics.Graph.Json
import ClassMetrics.Analysis.Report
import ClassMetrics.Archive.Crc32
import ClassMetrics.Archive.Inflate
import ClassMetrics.Text.CodePage437
import ClassMetrics.Text.Utf8
import ClassMetrics.Archive.Zip
import ClassMetrics.Classpath.Basic
import ClassMetrics.Cli.Args
import ClassMetrics.Pattern.Ast
import ClassMetrics.Unicode.Runs
import ClassMetrics.Unicode.AliasTable
import ClassMetrics.Unicode.CategoryTable
import ClassMetrics.Unicode.ScriptTable
import ClassMetrics.Unicode.PropertyTable
import ClassMetrics.Unicode.CaseFoldTable
import ClassMetrics.Unicode.ValueTable
import ClassMetrics.Unicode.NameTable
import ClassMetrics.Unicode.Property
import ClassMetrics.Pattern.CharClass
import ClassMetrics.Pattern.Parse
import ClassMetrics.Pattern.Expr
import ClassMetrics.Pattern.PropertyClass
import ClassMetrics.Pattern.Lower
import ClassMetrics.Pattern.ByteSequence
import ClassMetrics.Pattern.Footprint
import ClassMetrics.Pattern.Match
import ClassMetrics.Json.Print
import ClassMetrics.Cli.Output
import ClassMetrics.Json.Parse
import ClassMetrics.Tree.Json
import ClassMetrics.Cli.Run
import ClassMetrics.Main
import ClassMetrics.Proofs.ClassFile.Levels
import ClassMetrics.Proofs.ClassFile.Contents
import ClassMetrics.Proofs.Graph.Nodes
import ClassMetrics.Proofs.Graph.Extends
import ClassMetrics.Proofs.Graph.WellFormed
import ClassMetrics.Proofs.Graph.NodeMap
import ClassMetrics.Proofs.Graph.Redeclare
import ClassMetrics.Proofs.Graph.Shapes
import ClassMetrics.Proofs.Loader.Run
import ClassMetrics.Proofs.Loader.Steps
import ClassMetrics.Proofs.Loader.Classes
import ClassMetrics.Proofs.Loader.Reachable
import ClassMetrics.Proofs.Loader.Escalation
import ClassMetrics.Proofs.Loader.Commute
import ClassMetrics.Proofs.Loader.PathIndependence
import ClassMetrics.Proofs.Loader.Fuel
import ClassMetrics.Proofs.Build.Frozen
import ClassMetrics.Proofs.Build.Loads
import ClassMetrics.Proofs.Build.Sites
import ClassMetrics.Proofs.Build.Wiring
import ClassMetrics.Proofs.Build.Run
import ClassMetrics.Proofs.Build.Policy
import ClassMetrics.Proofs.Build.Levels
import ClassMetrics.Proofs.Tree.Aggregate
import ClassMetrics.Proofs.Visitor.Standard
import ClassMetrics.Proofs.Dependency.Record
import ClassMetrics.Proofs.Dependency.Visit
import ClassMetrics.Proofs.Dependency.Rollup
import ClassMetrics.Proofs.Dependency.Conservation
import ClassMetrics.Proofs.Dependency.Cycles
import ClassMetrics.Proofs.Dependency.Accounts
import ClassMetrics.Proofs.Graph.Overrides
import ClassMetrics.Proofs.Graph.Cohesion
import ClassMetrics.Proofs.ClassFile.Truncation
import ClassMetrics.Proofs.ClassFile.Descriptors
import ClassMetrics.Proofs.ClassFile.SignatureDescriptors
import ClassMetrics.Proofs.ClassFile.PoolSlots
import ClassMetrics.Proofs.Text.ModifiedUtf8
import ClassMetrics.Proofs.ClassFile.Layout
import ClassMetrics.Proofs.ClassFile.RoundTrip
import ClassMetrics.Proofs.Build.Stock
import ClassMetrics.Proofs.Build.Failures
import ClassMetrics.Proofs.Build.Accounting
import ClassMetrics.Proofs.Loader.Recording
import ClassMetrics.Proofs.Order.Measures
import ClassMetrics.Proofs.Graph.Inheritance
import ClassMetrics.Proofs.Graph.Resolution
import ClassMetrics.Proofs.ClassFile.CodeWalk
import ClassMetrics.Proofs.Build.Faithful
import ClassMetrics.Proofs.Build.FaithfulLoads
import ClassMetrics.Proofs.Build.FaithfulWiring
import ClassMetrics.Proofs.Build.Usages
import ClassMetrics.Proofs.Build.Built
import ClassMetrics.Proofs.Order.Sources
import ClassMetrics.Proofs.Build.Keys
import ClassMetrics.Proofs.Order.Keyed
import ClassMetrics.Proofs.Order.Lookup
import ClassMetrics.Proofs.Order.Builds
import ClassMetrics.Proofs.Tree.Shape
import ClassMetrics.Proofs.Tree.Growth
import ClassMetrics.Proofs.Tree.SumUp
import ClassMetrics.Proofs.Tree.Histogram
import ClassMetrics.Proofs.Dependency.Dispatch
import ClassMetrics.Proofs.Order.TreeKeys
import ClassMetrics.Proofs.Order.Attach
import ClassMetrics.Proofs.Order.Fresh
import ClassMetrics.Proofs.Order.Dependencies
import ClassMetrics.Proofs.Order.MemberOrder
import ClassMetrics.Proofs.Graph.SubclassIndex
import ClassMetrics.Proofs.Graph.Response
import ClassMetrics.Proofs.ClassFile.SignatureScan
