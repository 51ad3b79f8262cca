import MarkupLint.Check.Registry
import MarkupLint.Command.Run
import MarkupLint.Json.Reader
import MarkupLint.Project.Snapshot

/-!
The command line.  The project is read as JSON from one line of the standard input, with the
members `files`, `env` and `dictionaries`.
-/
namespace MarkupLint.Main

def surroundings (snapshot : Value) : Command.Surroundings :=
  { working := ⟨"", ["."]⟩
    bundled := ⟨"", ["data", "config"]⟩
    project := Snapshot.project (snapshot.field "files")
    environment := Snapshot.environment (snapshot.field "env")
    registry := .builtIn (Snapshot.dictionaries (snapshot.field "dictionaries")) }

/-- Write what a command leaves, and give its exit code. -/
def finish (outcome : Command.Outcome) : IO UInt32 := do
  let out ← IO.getStdout
  let err ← IO.getStderr
  for line in outcome.log do
    err.putStrLn line
  err.putStr outcome.written.err
  out.putStr outcome.written.out
  out.flush
  return UInt32.ofNat outcome.exit

end MarkupLint.Main

open MarkupLint in
def main (arguments : List String) : IO UInt32 := do
  let line ← (← IO.getStdin).getLine
  match Command.run (Main.surroundings ((Json.read? line).getD .null)) arguments with
  | .ok outcome => Main.finish outcome
  | .error failure => do
      (← IO.getStderr).putStrLn failure.message
      return 1
