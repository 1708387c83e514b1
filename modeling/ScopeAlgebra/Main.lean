import ScopeAlgebra.Cli.Run

/-!
# The program

Reads the files that a command names, runs the command and prints its outcome.
-/

namespace ScopeAlgebra.Cli

/-- How the program is called. -/
def usage : String :=
  "Usage: scope-algebra [--verbose] scope COMMAND [OPTIONS] [ARGUMENTS]\n" ++
    "Commands: catalog, intent, validate-pattern, compile, resolve, normalize, contains, filter"

/-- Whether something stands at a path. -/
def isThere (path : String) : IO Bool := do
  try
    (← IO.FS.realPath path).pathExists
  catch _ => return false

/-- The entry at a path, with the path, if there is one. -/
def entryOf? (path : String) : IO (Option (String × Entry)) := do
  try
    return some (path, .file (← IO.FS.readFile path))
  catch _ => return if ← isThere path then some (path, .unreadable) else none

/-- Runs a command over the files of the working directory. -/
def perform (c : Command) : IO UInt32 := do
  let entries ← c.paths.filterMapM entryOf?
  let outcome := outcomeOf (fun path => (entries.find? (·.1 = path)).map (·.2)) c
  IO.print outcome.render
  return UInt32.ofNat outcome.exitCode

end ScopeAlgebra.Cli

/-- Runs the command that the arguments stand for. -/
def main (arguments : List String) : IO UInt32 :=
  match ScopeAlgebra.Cli.Command.ofArguments? arguments with
  | some c => ScopeAlgebra.Cli.perform c
  | none => do
    IO.eprintln ScopeAlgebra.Cli.usage
    return 2
