import ClassMetrics.Tree.Scope

/-!
The command line's arguments. A command names what to print (`analyze`, `edges`, `blocks`,
`overrides`); every command takes the classpath options, and each its own. Long options take
their value after `=` or as the next argument, which must not look like an option; `--classes`
and `--libraries` take every following argument up to the next option, and may be given again.
Any other option given twice before or after the command, an unknown option, a value the option
does not accept, a missing value, one positional argument too many, or a missing required argument
is a usage error. Each is refused when it is read, so `--help` answers only when nothing before
it was refused; `--version` answers before the command. Short flags may be clustered, as `-vV`.
-/

namespace ClassMetrics.Cli

/-- How an option takes values. -/
inductive OptionKind
  /-- Takes no value. -/
  | flag
  /-- Takes one value, once. -/
  | single
  /-- Takes one or more values, as often as given. -/
  | multi
  deriving DecidableEq, Repr

/-- An option of a command: its long name and how it takes values. -/
structure OptionSpec where
  name : String
  kind : OptionKind
  /-- Whether an empty value is refused, as for paths. -/
  path : Bool := false
  /-- The values the option accepts; any value when empty. -/
  choices : List String := []

/-- The options that name the classes to analyse and how. -/
def classpathOptions : List OptionSpec :=
  [⟨"classes", .multi, true, []⟩, ⟨"libraries", .multi, true, []⟩,
   ⟨"config", .single, true, []⟩, ⟨"project", .single, false, []⟩,
   ⟨"sequential", .flag, false, []⟩, ⟨"rfc-exclude-accessors", .flag, false, []⟩]

/-- The option every command accepts. -/
def verboseOption : OptionSpec := ⟨"verbose", .flag, false, []⟩

/-- The options of a command, by its name. -/
def commandOptions : String → Option (List OptionSpec)
  | "analyze" => some (classpathOptions ++ [⟨"tree", .single, true, []⟩,
      ⟨"json", .flag, false, []⟩, ⟨"filter", .single, false, []⟩, verboseOption])
  | "edges" => some (classpathOptions ++ [⟨"level", .single, false, ["class", "file", "package"]⟩,
      ⟨"filter", .single, false, []⟩, verboseOption])
  | "blocks" => some (classpathOptions ++ [verboseOption])
  | "overrides" => some (classpathOptions ++ [⟨"filter", .single, false, []⟩, verboseOption])
  | _ => none

/-- Whether an argument looks like an option rather than a value. -/
def looksLikeOption (arg : String) : Bool := arg.startsWith "-" && arg != "-"

/-- What reading the arguments of a command gives. -/
inductive Reading
  /-- The options with their values, and the positional arguments. -/
  | done (values : List (String × List String)) (positional : List String)
  | help
  | usageError
  deriving Repr

/-- The values given so far to an option. -/
def valuesOf (values : List (String × List String)) (name : String) : Option (List String) :=
  (values.find? (·.1 == name)).map (·.2)

/-- Records values of an option. A value the option does not accept, and a second use of an
option that is not `multi`, are refused. -/
def record (values : List (String × List String)) (spec : OptionSpec) (vs : List String) :
    Option (List (String × List String)) :=
  if spec.path && vs.any (·.isEmpty) then none
  else if !spec.choices.isEmpty && vs.any (!spec.choices.contains ·) then none
  else match valuesOf values spec.name with
    | some old => if spec.kind == .multi then
        some (values.map fun (n, xs) => if n == spec.name then (n, old ++ vs) else (n, xs))
      else none
    | none => some (values ++ [(spec.name, vs)])

/-- Reads a cluster of short flags: `-v` is verbose and `-h` asks for help at once. -/
def shortFlags (values : List (String × List String)) : List Char → Reading
  | [] => .done values []
  | 'h' :: _ => .help
  | 'v' :: rest =>
    match record values verboseOption [] with
    | some values => shortFlags values rest
    | none => .usageError
  | _ => .usageError

/-- Reads the arguments of a command that takes at most `limit` positional arguments; one more
is refused as soon as it is read. -/
def readArgs (specs : List OptionSpec) (limit : Nat) :
    List String → List (String × List String) → List String → Bool → Reading
  | [], values, positional, _ => .done values positional
  | arg :: rest, values, positional, literal =>
    if literal || !looksLikeOption arg then
      if positional.length < limit then readArgs specs limit rest values (positional ++ [arg]) literal
      else .usageError
    else if arg == "--" then readArgs specs limit rest values positional true
    else if arg.startsWith "--" then
      let body := (arg.drop 2).toString
      let name := (body.splitOn "=").headD ""
      let attached := if body.contains '=' then some ((body.drop (name.length + 1)).toString)
        else none
      if name == "help" then (if attached.isSome then .usageError else .help)
      else match specs.find? (·.name == name) with
      | none => .usageError
      | some spec =>
        match spec.kind, attached with
        | .flag, some _ => .usageError
        | .flag, none =>
          match record values spec [] with
          | some values => readArgs specs limit rest values positional literal
          | none => .usageError
        | _, some v =>
          match record values spec [v] with
          | some values => readArgs specs limit rest values positional literal
          | none => .usageError
        | .single, none =>
          match rest with
          | v :: after =>
            if looksLikeOption v then .usageError
            else match record values spec [v] with
              | some values => readArgs specs limit after values positional literal
              | none => .usageError
          | [] => .usageError
        | .multi, none =>
          let vs := rest.takeWhile fun v => !looksLikeOption v
          if vs.isEmpty then .usageError
          else match record values spec vs with
            | some values => readArgs specs limit (rest.drop vs.length) values positional literal
            | none => .usageError
    else
      match shortFlags values (arg.toList.drop 1) with
      | .done values _ => readArgs specs limit rest values positional literal
      | r => r
termination_by args => args.length
decreasing_by all_goals simp only [List.length_cons, List.length_drop]; omega

/-- The classpath options of a command. -/
structure ClasspathArgs where
  classes : List String
  libraries : List String := []
  config : Option String := none
  project : String := "project"
  sequential : Bool := false
  rfcExcludeAccessors : Bool := false
  deriving Repr

/-- A command and its arguments. -/
inductive Command
  | analyze (cp : ClasspathArgs) (tree : Option String) (json : Bool) (filter : Option String)
  | edges (cp : ClasspathArgs) (level : Scope) (filter : Option String)
  | blocks (cp : ClasspathArgs) (cls : String)
  | overrides (cp : ClasspathArgs) (filter : Option String)

/-- What the command line asks for. -/
inductive Invocation
  | run (cmd : Command)
  | version
  /-- Help on the program, or on one command. -/
  | help (command : Option String)
  | usageError

/-- The level of dependencies a name stands for. -/
def levelOf? : String → Option Scope
  | "class" => some .cls
  | "file" => some .file
  | "package" => some .package
  | _ => none

/-- The command described by its options and positional arguments. -/
def Command.ofValues (name : String) (values : List (String × List String))
    (positional : List String) : Option Command := do
  let one := fun (n : String) => (valuesOf values n).bind List.head?
  let has := fun (n : String) => (valuesOf values n).isSome
  let classes ← valuesOf values "classes"
  let cp : ClasspathArgs := ⟨classes, (valuesOf values "libraries").getD [], one "config",
    (one "project").getD "project", has "sequential", has "rfc-exclude-accessors"⟩
  match name, positional with
  | "analyze", [] => some (.analyze cp (one "tree") (has "json") (one "filter"))
  | "edges", [] =>
    let level ← match one "level" with
      | some l => levelOf? l
      | none => some .package
    some (.edges cp level (one "filter"))
  | "blocks", [cls] => some (.blocks cp cls)
  | "overrides", [] => some (.overrides cp (one "filter"))
  | _, _ => none

/-- Reads a command's arguments. The command counts its options afresh: `--verbose` given before
the command does not count against a second one after it. -/
def readCommand (name : String) (args : List String) : Invocation :=
  match commandOptions name with
  | none => .usageError
  | some specs =>
    match readArgs specs (if name == "blocks" then 1 else 0) args [] [] false with
    | .help => .help (some name)
    | .usageError => .usageError
    | .done values positional =>
      match Command.ofValues name values positional with
      | some cmd => .run cmd
      | none => .usageError

/-- Reads a cluster of short flags of the program itself, left to right: `-V` answers with the
version and `-h` with help as soon as it is read, whatever follows; `-v` is verbose, once. Gives
whether verbose has been given, or the answer. -/
def programFlags : List Char → Bool → Except Invocation Bool
  | [], verbose => .ok verbose
  | 'V' :: _, _ => .error .version
  | 'h' :: _, _ => .error (.help none)
  | 'v' :: rest, verbose => if verbose then .error .usageError else programFlags rest true
  | _, _ => .error .usageError

/-- Reads the whole command line: options of the program, then a command. -/
def readInvocation : List String → Bool → Invocation
  | [], _ => .usageError
  | arg :: rest, verbose =>
    if arg == "--version" then .version
    else if arg == "--help" then .help none
    else if arg == "--verbose" then
      if verbose then .usageError else readInvocation rest true
    else if looksLikeOption arg && !arg.startsWith "--" then
      match programFlags (arg.toList.drop 1) verbose with
      | .ok verbose => readInvocation rest verbose
      | .error answer => answer
    else if looksLikeOption arg then .usageError
    else if arg == "help" then
      match rest with
      | [] => .help none
      | [c] => if (commandOptions c).isSome || c == "help" then .help (some c) else .usageError
      | _ => .usageError
    else readCommand arg rest

end ClassMetrics.Cli
