import PageComponent.Command.Run

/-!
# Command line

Lists the controls that a template declares, prints its default parameters or renders it.
-/

open PageComponent

/-- The files among the paths that are there. -/
def readFiles (paths : List String) : IO Files := do
  let mut files : Files := []
  for path in paths do
    try
      files := files.set (Files.normalPath path) (← IO.FS.readBinFile path)
    catch _ => pure ()
  return files

def readEnvironment : IO (Entries String) := do
  let names := [Config.projectPathVariable, Config.debounceVariable]
  names.filterMapM fun name => do return (← IO.getEnv name).map (name, ·)

def noticeLine (n : Notice) : String :=
  (match n.severity with
    | .warning => "WARNING "
    | .error => "ERROR ") ++ n.message

def main (args : List String) : IO UInt32 := do
  let outcome := Command.run (← readFiles (Command.inputs args)) (← readEnvironment) args
  for notice in outcome.notices do
    IO.eprintln (noticeLine notice)
  match outcome.result with
  | .ok output =>
    for (path, text) in output.written do
      IO.FS.writeFile path text
    IO.print output.printed
    return 0
  | .error e =>
    IO.eprint (if e.explanation?.isSome then e.text else "Error: unexpected failure\n")
    return e.exitCode.toUInt32
