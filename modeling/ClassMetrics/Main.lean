import ClassMetrics.Cli.Run

/-!
The program. It reads every file its arguments name, a value after `=` included, runs the
command line against those files and prints what the run prints; a failed run writes its error
line, and the program exits with the run's status. Paths are read relative to the working
directory, and a classpath entry is read as a file, so a directory of classes is seen only
through the files named on the command line.
-/

namespace ClassMetrics.Main

/-- The paths an argument may name: itself, and the value it gives after `=`. -/
def candidates (arg : String) : List String :=
  match arg.splitOn "=" with
  | [] | [_] => [arg]
  | _ :: rest => [arg, "=".intercalate rest]

/-- The bytes of a file, or nothing when it cannot be read. -/
def readFile? (path : String) : IO (Option (List UInt8)) := do
  try
    let bytes ← IO.FS.readBinFile path
    pure (some bytes.toList)
  catch _ =>
    pure none

/-- Every file the arguments name that can be read, each once. -/
def namedFiles (args : List String) : IO (List (String × List UInt8)) := do
  let paths := (args.flatMap candidates).foldl (fun ps p => if ps.contains p then ps else ps ++ [p]) []
  paths.filterMapM fun p => do
    pure ((← readFile? p).map (p, ·))

end ClassMetrics.Main

/-- Runs the command line and exits with its status. -/
def main (args : List String) : IO UInt32 := do
  let files ← ClassMetrics.Main.namedFiles args
  let o := ClassMetrics.Cli.runArgs ⟨files, []⟩ args
  IO.print o.stdout
  match o.error with
  | some e => IO.eprintln ("Error: " ++ e)
  | none => if o.status == 2 then IO.eprintln "error: invalid arguments" else pure ()
  pure o.status.toUInt32
