import ClassMetrics.Cli.Args
import ClassMetrics.Cli.Output
import ClassMetrics.Classpath.Basic
import ClassMetrics.Tree.Json

/-!
Running a command against the files below the working directory. A command first compiles its
filter, then reads the settings file and the tree file it names, then analyses the classes its
classpath offers; the first step that fails ends the run with one line of error, and nothing is
printed. A run that succeeds prints its report.
-/

namespace ClassMetrics.Cli

/-- What a run leaves: its exit status, what it printed, and the error line of a failed run. -/
structure Outcome where
  status : Nat
  stdout : String
  error : Option String
  deriving DecidableEq, Repr

/-- The outcome of a run that printed a text. -/
def Outcome.printed (text : String) : Outcome := ⟨0, text, none⟩

/-- The outcome of a run that failed with an error line. -/
def Outcome.failed (message : String) : Outcome := ⟨1, "", some message⟩

/-- The outcome of arguments the command line refuses. -/
def Outcome.refused : Outcome := ⟨2, "", none⟩

/-- The filter a command was given, compiled. -/
def compileFilter : Option String → Except String (Option Pattern.Program)
  | none => .ok none
  | some p => match Pattern.compilePattern p with
    | some prog => .ok (some prog)
    | none => .error ("Invalid filter regex: " ++ p)

/-- The text of a file, if it exists and is UTF-8. -/
def readText? (t : FileTree) (path : String) : Option String :=
  (t.read? path).bind fun bytes => String.fromUTF8? ⟨bytes.toArray⟩

/-- The settings of a run: read from the settings file when one is named, else the defaults,
then changed by the flags. -/
def loadConfig (t : FileTree) (cp : ClasspathArgs) : Except String EngineConfig := do
  let c ← match cp.config with
    | none => pure {}
    | some path => match readText? t path with
      | none => throw ("Failed to read config file: " ++ path)
      | some text => match EngineConfig.ofToml text with
        | .ok c => pure c
        | .error _ => throw ("Invalid config file: " ++ path)
  let c := if cp.sequential then { c with parallel := false } else c
  pure (if cp.rfcExcludeAccessors then { c with rfcExcludeAccessors := true } else c)

/-- The source tree a run was given, read from its file. -/
def loadTree (t : FileTree) : Option String → Except String (Option SourceTree)
  | none => .ok none
  | some path => match readText? t path with
    | none => .error ("Failed to read source tree: " ++ path)
    | some text => match SourceTree.ofJsonText text with
      | .ok tree => .ok (some tree)
      | .error e => .error e.message

/-- Analyses the classes a classpath offers, with its libraries to look up what they use. -/
def runAnalysis (t : FileTree) (cp : ClasspathArgs) (tree : Option String) :
    Except String Analysis := do
  let c ← loadConfig t cp
  let tree ← loadTree t tree
  let classes := (Classpath.ofPaths t cp.classes).source
  let libraries := (Classpath.ofPaths t cp.libraries).source
  match analyze c cp.project classes libraries tree with
  | .ok a => pure a
  | .error _ => throw "Failed to build structural graph"

/-- What a command prints. -/
def Command.report (t : FileTree) : Command → Except String String
  | .analyze cp tree json filter => do
    let filter ← compileFilter filter
    let a ← runAnalysis t cp tree
    pure (if json then reportText a else classTable a filter)
  | .edges cp level filter => do
    let filter ← compileFilter filter
    let a ← runAnalysis t cp none
    pure (edgeList a level filter)
  | .blocks cp cls => do
    let a ← runAnalysis t cp none
    match a.blocks? cls with
    | some bs => pure (blockList cls bs)
    | none => throw ("No LCOM4 blocks for class: " ++ cls)
  | .overrides cp filter => do
    let filter ← compileFilter filter
    let a ← runAnalysis t cp none
    pure (overrideList a filter)

/-- The summary of the program and its commands. -/
def programHelp : String :=
  linesOf ["Structural analysis and design metrics for compiled class files", "",
    "Usage: squid [OPTIONS] <COMMAND>", "", "Commands:",
    "  analyze    Measure classes and print per-class metrics with the project summary",
    "  edges      Print dependency edges at one granularity",
    "  blocks     Print the LCOM4 blocks of one class",
    "  overrides  Print virtual-dispatch links found by the linker",
    "  help       Print this message or the help of the given subcommand(s)", "", "Options:",
    "  -v, --verbose  Debug logging (overridden by SQUID_LOG)",
    "  -h, --help     Print help", "  -V, --version  Print version"]

/-- The summary of one command. -/
def commandHelp (name : String) : String :=
  match commandOptions name with
  | none => programHelp
  | some specs =>
    linesOf (("Usage: squid " ++ name ++ " [OPTIONS] --classes <CLASSES>...") :: "" ::
      "Options:" :: specs.map fun s =>
        "      --" ++ s.name ++ match s.kind with
          | .flag => ""
          | .single => " <" ++ s.name.toUpper ++ ">"
          | .multi => " <" ++ s.name.toUpper ++ ">...")

/-- What the command line does with the files below its working directory. -/
def Invocation.outcome (t : FileTree) : Invocation → Outcome
  | .usageError => .refused
  | .version => .printed "squid 0.1.0\n"
  | .help none => .printed programHelp
  | .help (some name) => .printed (commandHelp name)
  | .run cmd => match cmd.report t with
    | .ok text => .printed text
    | .error message => .failed message

/-- Runs a command line against the files below its working directory. -/
def runArgs (t : FileTree) (args : List String) : Outcome := (readInvocation args false).outcome t

end ClassMetrics.Cli
