import EntityMap.CommandLine.Run
import EntityMap.Sample

/-!
# The program

The command line over the sample catalogue. It only prints what `EntityMap.CommandLine.run`
gives.
-/

open EntityMap EntityMap.CommandLine

/-- How the program is called. -/
def usageText : String :=
  "usage: entity-map [-h] [-v] (ddl ENTITY... | init DATABASE ENTITY... | explain ENTITY METHOD)"

/-- Carries out the command that the arguments name. -/
def main (arguments : List String) : IO UInt32 :=
  match Request.ofArguments arguments, Sample.catalogue with
  | .help, _ => do
    IO.println usageText
    return 0
  | .unusable, _ => do
    IO.eprintln usageText
    return 2
  | .run _, .error _ => do
    IO.eprintln "The sample catalogue is not well formed."
    return 1
  | .run command, .ok catalogue => do
    let output := run catalogue command
    IO.print output.text
    IO.eprint output.errorText
    return if output.error.isSome then 1 else 0
